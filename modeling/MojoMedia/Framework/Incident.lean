import Mathlib.Algebra.GroupWithZero.Nat
import Mathlib.Data.List.Nodup
import MojoMedia.Shared.Histories

set_option autoImplicit false

-- A consequence may call the incident it is a consequence of.
namespace MojoMedia.Framework

structure Incident (Consequence : Type) where
  occurred : Bool := false
  consequences : List Consequence := []
  deriving Repr, DecidableEq

namespace Incident

open Histories

section Methods

variable {Consequence : Type}

def when (incident : Incident Consequence) (consequence : Consequence) :
    Incident Consequence × List Consequence :=
  if incident.occurred then (incident, [consequence])
  else ({ incident with consequences := incident.consequences ++ [consequence] }, [])

def occur (incident : Incident Consequence) : Incident Consequence × List Consequence :=
  if incident.occurred then (incident, [])
  else ({ occurred := true, consequences := [] }, incident.consequences)

def reset (_ : Incident Consequence) : Incident Consequence :=
  { occurred := false, consequences := [] }

end Methods

inductive Call where
  | when (calls : List Call)
  | occur
  | reset
  deriving Repr

structure Consequence where
  id : Nat
  calls : List Call
  deriving Repr

-- What is still to be done before the outermost call returns, the innermost first.
inductive Task where
  | call (call : Call)
  | run (cause : Nat) (consequence : Consequence)
  deriving Repr

inductive Event where
  | when (id : Nat) (occurred : Bool)
  | occur (cause : Nat) (occurred : Bool)
  | reset
  | ran (id cause : Nat)
  deriving Repr, DecidableEq

structure State where
  incident : Incident Consequence := {}
  agenda : List Task
  serial : Nat := 0
  trace : List Event := []
  deriving Repr

def perform (state : State) (rest : List Task) : Call → State
  | .when calls =>
    let result := state.incident.when ⟨state.serial, calls⟩
    { incident := result.1
      agenda := result.2.map (.run state.serial) ++ rest
      serial := state.serial + 1
      trace := state.trace ++ [.when state.serial state.incident.occurred] }
  | .occur =>
    let result := state.incident.occur
    { incident := result.1
      agenda := result.2.map (.run state.serial) ++ rest
      serial := state.serial + 1
      trace := state.trace ++ [.occur state.serial state.incident.occurred] }
  | .reset =>
    { state with
      incident := state.incident.reset
      agenda := rest
      trace := state.trace ++ [.reset] }

def step (state : State) : State :=
  match state.agenda with
  | [] => state
  | .call request :: rest => perform state rest request
  | .run cause consequence :: rest =>
    { state with
      agenda := consequence.calls.map .call ++ rest
      trace := state.trace ++ [.ran consequence.id cause] }

def run : Nat → State → State
  | 0, state => state
  | steps + 1, state => run steps (step state)

mutual

def Call.weight : Call → Nat
  | .when calls => weights calls + 2
  | .occur => 1
  | .reset => 1

def weights : List Call → Nat
  | [] => 0
  | first :: rest => first.weight + weights rest

end

def Consequence.weight (consequence : Consequence) : Nat := weights consequence.calls + 1

def Task.weight : Task → Nat
  | .call request => request.weight
  | .run _ consequence => consequence.weight

def weight (state : State) : Nat :=
  (state.agenda.map Task.weight).sum +
    (state.incident.consequences.map Consequence.weight).sum

theorem weight_calls (calls : List Call) :
    ((calls.map Task.call).map Task.weight).sum = weights calls := by
  induction calls with
  | nil => rfl
  | cons first rest ih =>
    rw [List.map_cons, List.map_cons, List.sum_cons, ih]
    rfl

theorem weight_run (cause : Nat) (consequences : List Consequence) :
    ((consequences.map (Task.run cause)).map Task.weight).sum =
      (consequences.map Consequence.weight).sum := by
  rw [List.map_map]
  rfl

theorem weight_step {state : State} (busy : state.agenda ≠ []) :
    weight (step state) < weight state := by
  obtain ⟨incident, agenda, serial, trace⟩ := state
  cases agenda with
  | nil => exact absurd rfl busy
  | cons task rest =>
    cases task with
    | run cause consequence =>
      simp only [step, weight, List.map_append, List.sum_append, weight_calls, List.map_cons,
        List.sum_cons, Task.weight, Consequence.weight]
      omega
    | call request =>
      cases request with
      | when calls =>
        simp only [step, perform, when]
        split
        · simp [weight, Task.weight, Call.weight, Consequence.weight]
        · simp [weight, Task.weight, Call.weight, Consequence.weight]
          omega
      | occur =>
        simp only [step, perform, occur]
        split
        · simp [weight, Task.weight, Call.weight]
        · simp only [weight, List.map_append, List.sum_append, weight_run]
          simp [Task.weight, Call.weight]
          omega
      | reset =>
        simp [step, perform, reset, weight, Task.weight, Call.weight]
        omega

theorem run_idle (steps : Nat) {state : State} (idle : state.agenda = []) :
    run steps state = state := by
  induction steps with
  | zero => rfl
  | succ steps ih =>
    have same : step state = state := by
      simp [step, idle]
    rw [run, same, ih]

theorem agenda_run (steps : Nat) (state : State) (enough : weight state ≤ steps) :
    (run steps state).agenda = [] := by
  induction steps generalizing state with
  | zero =>
    by_contra busy
    have lighter : weight (step state) < weight state := weight_step busy
    omega
  | succ steps ih =>
    by_cases busy : state.agenda = []
    · rw [run_idle _ busy, busy]
    · apply ih
      have lighter := weight_step busy
      omega

def complete (calls : List Call) : State :=
  run (weights calls) { agenda := calls.map .call }

theorem agenda_complete (calls : List Call) : (complete calls).agenda = [] := by
  apply agenda_run
  rw [weight, weight_calls]
  exact Nat.le_refl _

def ranIn (trace : List Event) : List (Nat × Nat) :=
  trace.filterMap fun
    | .ran id cause => some (id, cause)
    | _ => none

def registeredIn (trace : List Event) : List Nat :=
  trace.filterMap fun
    | .when id _ => some id
    | _ => none

theorem mem_ranIn {trace : List Event} {id cause : Nat} :
    (id, cause) ∈ ranIn trace ↔ .ran id cause ∈ trace := by
  rw [ranIn, List.mem_filterMap]
  constructor
  · rintro ⟨event, member, same⟩
    cases event with
    | ran =>
      cases same
      exact member
    | when | occur | reset => cases same
  · intro member
    exact ⟨_, member, rfl⟩

def IsReset (event : Event) : Prop := event = .reset

def IsOccurrence (event : Event) : Prop := ∃ cause occurred, event = .occur cause occurred

-- A call finds the incident in the occurred state if `Occur` was called after the last `Reset`.
def Flagged (before : List Event) (event : Event) : Prop :=
  ∀ occurred, (∃ id, event = .when id occurred) ∨ (∃ cause, event = .occur cause occurred) →
    (occurred = true ↔ Since IsOccurrence IsReset before)

-- The call that a consequence is to be run by: `When` itself in the occurred state, or the next
-- call of `Occur` that takes effect, unless the incident is reset before.
def Owed (trace : List Event) (id cause : Nat) : Prop :=
  (.when id true ∈ trace ∧ cause = id) ∨
    ∃ before after, trace = before ++ .occur cause false :: after ∧
      Since (· = .when id false) IsReset before

theorem owed_concat {trace : List Event} {event : Event} {id cause : Nat} :
    Owed (trace ++ [event]) id cause ↔
      Owed trace id cause ∨ (event = .when id true ∧ cause = id) ∨
        (event = .occur cause false ∧ Since (· = .when id false) IsReset trace) := by
  constructor
  · rintro (⟨member, same⟩ | ⟨before, after, split, since⟩)
    · rcases List.mem_append.mp member with earlier | now
      · exact .inl (.inl ⟨earlier, same⟩)
      · exact .inr (.inl ⟨(List.mem_singleton.mp now).symm, same⟩)
    · rcases split_concat split with ⟨rfl, rfl⟩ | ⟨rest, -, rfl⟩
      · exact .inr (.inr ⟨rfl, since⟩)
      · exact .inl (.inr ⟨before, rest, rfl, since⟩)
  · rintro ((⟨member, same⟩ | ⟨before, after, rfl, since⟩) | ⟨rfl, same⟩ | ⟨rfl, since⟩)
    · exact .inl ⟨List.mem_append_left _ member, same⟩
    · exact .inr ⟨before, after ++ [event], by simp, since⟩
    · exact .inl ⟨by simp, same⟩
    · exact .inr ⟨trace, [], rfl, since⟩

structure Meant (occurred : Bool) (held : List Nat) (runs : List (Nat × Nat))
    (trace : List Event) : Prop where
  owed : ∀ id cause, (id, cause) ∈ runs ↔ Owed trace id cause
  initial : occurred = false → ∀ id, id ∈ held ↔ Since (· = .when id false) IsReset trace
  empty : occurred = true → held = []
  flag : occurred = true ↔ Since IsOccurrence IsReset trace
  flagged : Always Flagged trace

namespace Meant

variable {occurred : Bool} {held : List Nat} {runs before after : List (Nat × Nat)} {serial : Nat}
  {trace : List Event}

theorem ran (meant : Meant occurred held runs trace) (id cause : Nat) :
    Meant occurred held runs (trace ++ [.ran id cause]) := by
  constructor
  · intro other otherCause
    rw [meant.owed, owed_concat]
    simp
  · intro initial other
    rw [meant.initial initial, since_concat]
    simp [IsReset]
  · exact meant.empty
  · rw [meant.flag, since_concat]
    simp [IsOccurrence, IsReset]
  · exact meant.flagged.concat (by simp [Flagged])

theorem reset (meant : Meant occurred held runs trace) :
    Meant false [] runs (trace ++ [.reset]) := by
  constructor
  · intro id cause
    rw [meant.owed, owed_concat]
    simp
  · intro _ id
    rw [since_concat]
    simp [IsReset]
  · exact fun _ => rfl
  · rw [since_concat]
    simp [IsOccurrence, IsReset]
  · exact meant.flagged.concat (by simp [Flagged])

theorem stored (meant : Meant false held runs trace) (serial : Nat) :
    Meant false (held ++ [serial]) runs (trace ++ [.when serial false]) := by
  constructor
  · intro id cause
    rw [meant.owed, owed_concat]
    simp
  · intro _ id
    rw [since_concat, List.mem_append, meant.initial rfl, List.mem_singleton]
    simp [IsReset, or_comm, eq_comm]
  · exact fun occurs => absurd occurs (by decide)
  · rw [meant.flag, since_concat]
    simp [IsOccurrence, IsReset]
  · exact meant.flagged.concat (by simp [Flagged, ← meant.flag])

theorem immediate (meant : Meant true held (before ++ after) trace) (serial : Nat) :
    Meant true held (before ++ ([(serial, serial)] ++ after)) (trace ++ [.when serial true]) := by
  constructor
  · intro id cause
    have inserted : (id, cause) ∈ before ++ ([(serial, serial)] ++ after) ↔
        (id, cause) ∈ before ++ after ∨ (id, cause) = (serial, serial) := by
      simp only [List.mem_append, List.mem_singleton]
      tauto
    rw [inserted, meant.owed, owed_concat]
    simp only [Prod.mk.injEq, Event.when.injEq, reduceCtorEq, false_and, or_false, and_true]
    constructor
    · rintro (owed | ⟨rfl, rfl⟩)
      · exact .inl owed
      · exact .inr ⟨rfl, rfl⟩
    · rintro (owed | ⟨rfl, rfl⟩)
      · exact .inl owed
      · exact .inr ⟨rfl, rfl⟩
  · exact fun initial => absurd initial (by decide)
  · exact meant.empty
  · rw [meant.flag, since_concat]
    simp [IsOccurrence, IsReset]
  · exact meant.flagged.concat (by simp [Flagged, ← meant.flag])

theorem occurs (meant : Meant false held (before ++ after) trace) (serial : Nat) :
    Meant true [] (before ++ (held.map (·, serial) ++ after)) (trace ++ [.occur serial false]) := by
  constructor
  · intro id cause
    have inserted : (id, cause) ∈ before ++ (held.map (·, serial) ++ after) ↔
        (id, cause) ∈ before ++ after ∨ cause = serial ∧ id ∈ held := by
      have moved : (id, cause) ∈ held.map (·, serial) ↔ cause = serial ∧ id ∈ held := by
        simp [eq_comm, and_comm]
      simp only [List.mem_append, moved]
      tauto
    rw [inserted, meant.owed, owed_concat, meant.initial rfl]
    simp only [reduceCtorEq, false_and, false_or, Event.occur.injEq, and_true, eq_comm]
  · exact fun initial => absurd initial (by decide)
  · exact fun _ => rfl
  · rw [since_concat]
    simp [IsOccurrence]
  · exact meant.flagged.concat (by simp [Flagged, ← meant.flag])

theorem ignored (meant : Meant true held runs trace) (serial : Nat) :
    Meant true held runs (trace ++ [.occur serial true]) := by
  constructor
  · intro id cause
    rw [meant.owed, owed_concat]
    simp
  · exact fun initial => absurd initial (by decide)
  · exact meant.empty
  · rw [since_concat]
    simp [IsOccurrence]
  · exact meant.flagged.concat (by simp [Flagged, ← meant.flag])

end Meant

def runsBy (cause : Nat) (runs : List (Nat × Nat)) : List Nat :=
  (runs.filter fun pair => pair.2 = cause).map Prod.fst

theorem runsBy_append (cause : Nat) (runs others : List (Nat × Nat)) :
    runsBy cause (runs ++ others) = runsBy cause runs ++ runsBy cause others := by
  rw [runsBy, List.filter_append, List.map_append]
  rfl

theorem runsBy_same (cause : Nat) (held : List Nat) :
    runsBy cause (held.map (·, cause)) = held := by
  simp [runsBy, List.filter_map, Function.comp_def]

theorem runsBy_eq_nil {cause : Nat} {runs : List (Nat × Nat)}
    (others : ∀ pair ∈ runs, pair.2 ≠ cause) : runsBy cause runs = [] := by
  rw [runsBy, List.map_eq_nil_iff, List.filter_eq_nil_iff]
  simpa using others

theorem runsBy_insert {before after : List (Nat × Nat)} {serial : Nat}
    (causes : ∀ pair ∈ before ++ after, pair.2 < serial) (ids : List Nat) (cause : Nat) :
    runsBy cause (before ++ (ids.map (·, serial) ++ after)) =
      if cause = serial then ids else runsBy cause (before ++ after) := by
  rw [runsBy_append, runsBy_append]
  split
  next own =>
    subst own
    have none : ∀ pair ∈ before ++ after, pair.2 ≠ cause :=
      fun pair member => Nat.ne_of_lt (causes pair member)
    rw [runsBy_same, runsBy_eq_nil fun pair member => none pair (List.mem_append_left _ member),
      runsBy_eq_nil fun pair member => none pair (List.mem_append_right _ member),
      List.nil_append, List.append_nil]
  next other =>
    have none : ∀ pair ∈ ids.map (·, serial), pair.2 ≠ cause := by
      intro pair member
      obtain ⟨id, -, rfl⟩ := List.mem_map.mp member
      exact Ne.symm other
    rw [runsBy_eq_nil none, List.nil_append, runsBy_append]

theorem causes_insert {before after : List (Nat × Nat)} {serial : Nat}
    (causes : ∀ pair ∈ before ++ after, pair.2 < serial) (ids : List Nat) :
    ∀ pair ∈ before ++ (ids.map (·, serial) ++ after), pair.2 < serial + 1 := by
  intro pair member
  rcases List.mem_append.mp member with earlier | later
  · exact Nat.lt_succ_of_lt (causes pair (List.mem_append_left _ earlier))
  · rcases List.mem_append.mp later with own | later
    · obtain ⟨id, -, rfl⟩ := List.mem_map.mp own
      exact Nat.lt_succ_self _
    · exact Nat.lt_succ_of_lt (causes pair (List.mem_append_right _ later))

structure Ordered (held : List Nat) (runs : List (Nat × Nat)) (serial : Nat)
    (registered : List Nat) : Prop where
  once : (held ++ runs.map Prod.fst).Nodup
  known : ∀ id ∈ held ++ runs.map Prod.fst, id ∈ registered
  issued : ∀ id ∈ registered, id < serial
  causes : ∀ pair ∈ runs, pair.2 < serial
  distinct : registered.Nodup
  heldInOrder : held.Sublist registered
  inOrder : ∀ cause, (runsBy cause runs).Sublist registered

namespace Ordered

variable {held registered : List Nat} {runs before after : List (Nat × Nat)} {serial : Nat}

theorem reset (ordered : Ordered held runs serial registered) :
    Ordered [] runs serial registered := by
  constructor
  · exact ordered.once.of_append_right
  · exact fun id member => ordered.known id (List.mem_append_right _ member)
  · exact ordered.issued
  · exact ordered.causes
  · exact ordered.distinct
  · exact List.nil_sublist _
  · exact ordered.inOrder

theorem issue (ordered : Ordered held runs serial registered) :
    Ordered held runs (serial + 1) registered := by
  constructor
  · exact ordered.once
  · exact ordered.known
  · exact fun id member => Nat.lt_succ_of_lt (ordered.issued id member)
  · exact fun pair member => Nat.lt_succ_of_lt (ordered.causes pair member)
  · exact ordered.distinct
  · exact ordered.heldInOrder
  · exact ordered.inOrder

theorem fresh (ordered : Ordered held runs serial registered) : serial ∉ registered :=
  fun member => Nat.lt_irrefl _ (ordered.issued _ member)

theorem registered_concat (ordered : Ordered held runs serial registered) :
    (registered ++ [serial]).Nodup ∧ ∀ id ∈ registered ++ [serial], id < serial + 1 := by
  constructor
  · exact List.nodup_append.mpr ⟨ordered.distinct, List.nodup_singleton _, by
      intro id member other now
      rw [List.mem_singleton.mp now]
      exact Nat.ne_of_lt (ordered.issued id member)⟩
  · intro id member
    rcases List.mem_append.mp member with earlier | now
    · exact Nat.lt_succ_of_lt (ordered.issued id earlier)
    · rw [List.mem_singleton.mp now]
      exact Nat.lt_succ_self _

theorem stored (ordered : Ordered held runs serial registered) :
    Ordered (held ++ [serial]) runs (serial + 1) (registered ++ [serial]) := by
  have moved : (held ++ [serial] ++ runs.map Prod.fst).Perm
      (serial :: (held ++ runs.map Prod.fst)) := by
    rw [List.append_assoc]
    exact List.perm_middle
  constructor
  · rw [moved.nodup_iff, List.nodup_cons]
    exact ⟨fun member => ordered.fresh (ordered.known _ member), ordered.once⟩
  · intro id member
    rcases List.mem_cons.mp (moved.mem_iff.mp member) with rfl | earlier
    · simp
    · exact List.mem_append_left _ (ordered.known id earlier)
  · exact ordered.registered_concat.2
  · exact fun pair member => Nat.lt_succ_of_lt (ordered.causes pair member)
  · exact ordered.registered_concat.1
  · exact ordered.heldInOrder.append (List.Sublist.refl _)
  · exact fun cause => (ordered.inOrder cause).trans (List.sublist_append_left _ _)

theorem immediate (ordered : Ordered held (before ++ after) serial registered) :
    Ordered held (before ++ ([(serial, serial)] ++ after)) (serial + 1)
      (registered ++ [serial]) := by
  have moved : (held ++ (before ++ ([(serial, serial)] ++ after)).map Prod.fst).Perm
      (serial :: (held ++ (before ++ after).map Prod.fst)) := by
    simp only [List.map_append, List.map_cons, List.singleton_append, ← List.append_assoc]
    exact List.perm_middle
  constructor
  · rw [moved.nodup_iff, List.nodup_cons]
    exact ⟨fun member => ordered.fresh (ordered.known _ member), ordered.once⟩
  · intro id member
    rcases List.mem_cons.mp (moved.mem_iff.mp member) with rfl | earlier
    · simp
    · exact List.mem_append_left _ (ordered.known id earlier)
  · exact ordered.registered_concat.2
  · exact causes_insert ordered.causes [serial]
  · exact ordered.registered_concat.1
  · exact ordered.heldInOrder.trans (List.sublist_append_left _ _)
  · intro cause
    rw [← List.map_singleton (f := (·, serial)), runsBy_insert ordered.causes]
    split
    · exact List.sublist_append_right _ _
    · exact (ordered.inOrder cause).trans (List.sublist_append_left _ _)

theorem occurs (ordered : Ordered held (before ++ after) serial registered) :
    Ordered [] (before ++ (held.map (·, serial) ++ after)) (serial + 1) registered := by
  have moved : ([] ++ (before ++ (held.map (·, serial) ++ after)).map Prod.fst).Perm
      (held ++ (before ++ after).map Prod.fst) := by
    simp only [List.nil_append, List.map_append, List.map_map, Function.comp_def, List.map_id']
    exact List.perm_append_comm_assoc _ _ _
  constructor
  · exact moved.nodup_iff.mpr ordered.once
  · exact fun id member => ordered.known id (moved.mem_iff.mp member)
  · exact fun id member => Nat.lt_succ_of_lt (ordered.issued id member)
  · exact causes_insert ordered.causes held
  · exact ordered.distinct
  · exact List.nil_sublist _
  · intro cause
    rw [runsBy_insert ordered.causes]
    split
    · exact ordered.heldInOrder
    · exact ordered.inOrder cause

end Ordered

def held (state : State) : List Nat := state.incident.consequences.map Consequence.id

def dueIn (agenda : List Task) : List (Nat × Nat) :=
  agenda.filterMap fun
    | .run cause consequence => some (consequence.id, cause)
    | .call _ => none

def runs (state : State) : List (Nat × Nat) := ranIn state.trace ++ dueIn state.agenda

theorem dueIn_calls (calls : List Call) (rest : List Task) :
    dueIn (calls.map .call ++ rest) = dueIn rest := by
  induction calls with
  | nil => rfl
  | cons first calls ih => exact ih

theorem dueIn_run (cause : Nat) (consequences : List Consequence) (rest : List Task) :
    dueIn (consequences.map (.run cause) ++ rest) =
      (consequences.map Consequence.id).map (·, cause) ++ dueIn rest := by
  induction consequences with
  | nil => rfl
  | cons first consequences ih =>
    rw [List.map_cons, List.map_cons, List.map_cons, List.cons_append, List.cons_append, ← ih]
    rfl

def OwedBefore (before : List Event) (event : Event) : Prop :=
  ∀ id cause, event = .ran id cause → Owed before id cause

structure Sound (state : State) : Prop where
  meant : Meant state.incident.occurred (held state) (runs state) state.trace
  ordered : Ordered (held state) (runs state) state.serial (registeredIn state.trace)
  owedBefore : Always OwedBefore state.trace

theorem sound_start (calls : List Call) : Sound { agenda := calls.map .call } := by
  have due : dueIn (calls.map .call) = [] := by
    rw [← List.append_nil (calls.map Task.call), dueIn_calls]
    rfl
  have none : runs { agenda := calls.map .call } = [] := due
  constructor
  · rw [none]
    constructor
    · intro id cause
      simp [Owed]
    · intro _ id
      simp [held, not_since_nil]
    · exact fun _ => rfl
    · simp [not_since_nil]
    · exact always_nil _
  · rw [none]
    constructor <;> simp [held, registeredIn, runsBy]
  · exact always_nil _

theorem owedBefore_concat {trace : List Event} {event : Event}
    (owedBefore : Always OwedBefore trace) (other : ∀ id cause, event ≠ .ran id cause) :
    Always OwedBefore (trace ++ [event]) :=
  owedBefore.concat fun id cause same => absurd same (other id cause)

namespace Sound

variable {incident : Incident Consequence} {rest : List Task} {serial : Nat} {trace : List Event}

theorem ran {cause : Nat} {consequence : Consequence}
    (sound : Sound ⟨incident, .run cause consequence :: rest, serial, trace⟩) :
    Sound (step ⟨incident, .run cause consequence :: rest, serial, trace⟩) := by
  have same : runs (step ⟨incident, .run cause consequence :: rest, serial, trace⟩) =
      runs ⟨incident, .run cause consequence :: rest, serial, trace⟩ := by
    simp [runs, step, ranIn, dueIn]
  have owed : Owed trace consequence.id cause := by
    apply (sound.meant.owed _ _).mp
    simp [runs, dueIn]
  have registered : registeredIn (trace ++ [.ran consequence.id cause]) = registeredIn trace := by
    simp [registeredIn]
  constructor
  · rw [same]
    exact sound.meant.ran _ _
  · rw [same]
    simp only [step, registered]
    exact sound.ordered
  · apply sound.owedBefore.concat
    intro id other equal
    cases equal
    exact owed

theorem when {calls : List Call}
    (sound : Sound ⟨incident, .call (.when calls) :: rest, serial, trace⟩) :
    Sound (step ⟨incident, .call (.when calls) :: rest, serial, trace⟩) := by
  have registered (occurred : Bool) :
      registeredIn (trace ++ [.when serial occurred]) = registeredIn trace ++ [serial] := by
    simp [registeredIn]
  have ran (occurred : Bool) : ranIn (trace ++ [.when serial occurred]) = ranIn trace := by
    simp [ranIn]
  obtain ⟨occurred, consequences⟩ := incident
  obtain ⟨meant, ordered, owedBefore⟩ := sound
  cases occurred
  · have after : step ⟨⟨false, consequences⟩, .call (.when calls) :: rest, serial, trace⟩ =
        ⟨⟨false, consequences ++ [⟨serial, calls⟩]⟩, rest, serial + 1,
          trace ++ [.when serial false]⟩ := rfl
    rw [after]
    constructor
    · simp only [held, runs, ran, List.map_append]
      exact meant.stored serial
    · simp only [held, runs, ran, registered, List.map_append]
      exact ordered.stored
    · exact owedBefore_concat owedBefore (by simp)
  · have after : step ⟨⟨true, consequences⟩, .call (.when calls) :: rest, serial, trace⟩ =
        ⟨⟨true, consequences⟩, .run serial ⟨serial, calls⟩ :: rest, serial + 1,
          trace ++ [.when serial true]⟩ := rfl
    rw [after]
    constructor
    · simp only [held, runs, ran]
      exact meant.immediate serial
    · simp only [held, runs, ran, registered]
      exact ordered.immediate
    · exact owedBefore_concat owedBefore (by simp)

theorem occur (sound : Sound ⟨incident, .call .occur :: rest, serial, trace⟩) :
    Sound (step ⟨incident, .call .occur :: rest, serial, trace⟩) := by
  have registered (occurred : Bool) :
      registeredIn (trace ++ [.occur serial occurred]) = registeredIn trace := by
    simp [registeredIn]
  have ran (occurred : Bool) : ranIn (trace ++ [.occur serial occurred]) = ranIn trace := by
    simp [ranIn]
  obtain ⟨occurred, consequences⟩ := incident
  obtain ⟨meant, ordered, owedBefore⟩ := sound
  cases occurred
  · have after : step ⟨⟨false, consequences⟩, .call .occur :: rest, serial, trace⟩ =
        ⟨⟨true, []⟩, consequences.map (.run serial) ++ rest, serial + 1,
          trace ++ [.occur serial false]⟩ := rfl
    rw [after]
    constructor
    · simp only [held, runs, ran, dueIn_run]
      exact meant.occurs serial
    · simp only [held, runs, ran, dueIn_run, registered]
      exact ordered.occurs
    · exact owedBefore_concat owedBefore (by simp)
  · have after : step ⟨⟨true, consequences⟩, .call .occur :: rest, serial, trace⟩ =
        ⟨⟨true, consequences⟩, rest, serial + 1, trace ++ [.occur serial true]⟩ := rfl
    rw [after]
    constructor
    · simp only [held, runs, ran]
      exact meant.ignored serial
    · simp only [held, runs, ran, registered]
      exact ordered.issue
    · exact owedBefore_concat owedBefore (by simp)

theorem reset (sound : Sound ⟨incident, .call .reset :: rest, serial, trace⟩) :
    Sound (step ⟨incident, .call .reset :: rest, serial, trace⟩) := by
  have same : runs (step ⟨incident, .call .reset :: rest, serial, trace⟩) =
      runs ⟨incident, .call .reset :: rest, serial, trace⟩ := by
    simp [runs, step, perform, ranIn, dueIn]
  have registered : registeredIn (trace ++ [.reset]) = registeredIn trace := by
    simp [registeredIn]
  constructor
  · rw [same]
    exact sound.meant.reset
  · rw [same]
    simp only [step, perform, registered]
    exact sound.ordered.reset
  · exact owedBefore_concat sound.owedBefore (by simp)

protected theorem step {state : State} (sound : Sound state) : Sound (step state) := by
  obtain ⟨incident, agenda, serial, trace⟩ := state
  cases agenda with
  | nil => exact ⟨sound.meant, sound.ordered, sound.owedBefore⟩
  | cons task rest =>
    cases task with
    | run cause consequence => exact sound.ran
    | call request =>
      cases request with
      | when calls => exact sound.when
      | occur => exact sound.occur
      | reset => exact sound.reset

end Sound

theorem sound_run (steps : Nat) {state : State} (sound : Sound state) :
    Sound (run steps state) := by
  induction steps generalizing state with
  | zero => exact sound
  | succ steps ih => exact ih sound.step

end Incident

end MojoMedia.Framework
