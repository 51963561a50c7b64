import Mathlib.Logic.Function.Basic
import MojoMedia.Framework.Incident

set_option autoImplicit false

namespace MojoMedia.Framework

namespace Incident

open Histories

-- The calls that have been made, where `given` tells what the consequences are to call.
def callsIn (given : Nat → List Call) (trace : List Event) : List Call :=
  trace.filterMap fun
    | .when id _ => some (.when (given id))
    | .occur _ _ => some .occur
    | .reset => some .reset
    | .ran _ _ => none

def callsDue (agenda : List Task) : List Call :=
  agenda.filterMap fun
    | .call request => some request
    | .run _ _ => none

-- The calls of the consequences that have been run.
def callsRun (given : Nat → List Call) (trace : List Event) : List Call :=
  (ranIn trace).flatMap fun pair => given pair.1

-- The consequences that may still be run.
def waiting (state : State) : List Consequence :=
  state.incident.consequences ++ state.agenda.filterMap fun
    | .run _ consequence => some consequence
    | .call _ => none

-- Every call is one of `calls` or one of a consequence that has been run.
structure Accounted (calls : List Call) (given : Nat → List Call) (state : State) : Prop where
  made : (callsIn given state.trace ++ callsDue state.agenda).Perm
    (calls ++ callsRun given state.trace)
  waits : ∀ consequence ∈ waiting state,
    given consequence.id = consequence.calls ∧ consequence.id < state.serial
  registered : ∀ id ∈ registeredIn state.trace, id < state.serial
  older : ∀ pair ∈ ranIn state.trace, pair.1 < state.serial

theorem callsIn_congr {given other : Nat → List Call} {trace : List Event}
    (same : ∀ id ∈ registeredIn trace, given id = other id) :
    callsIn given trace = callsIn other trace := by
  refine List.filterMap_congr fun event member => ?_
  cases event with
  | when id occurred =>
    have registered : id ∈ registeredIn trace := List.mem_filterMap.mpr ⟨_, member, rfl⟩
    simp [same id registered]
  | occur | reset | ran => rfl

theorem callsRun_congr {given other : Nat → List Call} {trace : List Event}
    (same : ∀ pair ∈ ranIn trace, given pair.1 = other pair.1) :
    callsRun given trace = callsRun other trace :=
  List.flatMap_congr same

theorem callsDue_calls (calls : List Call) (rest : List Task) :
    callsDue (calls.map .call ++ rest) = calls ++ callsDue rest := by
  induction calls with
  | nil => rfl
  | cons first calls ih => exact congrArg (first :: ·) ih

theorem callsDue_run (cause : Nat) (consequences : List Consequence) (rest : List Task) :
    callsDue (consequences.map (.run cause) ++ rest) = callsDue rest := by
  induction consequences with
  | nil => rfl
  | cons first consequences ih => exact ih

theorem waiting_calls (incident : Incident Consequence) (calls : List Call) (rest : List Task)
    (serial : Nat) (trace : List Event) :
    waiting ⟨incident, calls.map .call ++ rest, serial, trace⟩ =
      waiting ⟨incident, rest, serial, trace⟩ := by
  simp [waiting, List.filterMap_append, List.filterMap_map]

theorem waiting_run (incident : Incident Consequence) (cause : Nat)
    (consequences : List Consequence) (rest : List Task) (serial : Nat) (trace : List Event) :
    waiting ⟨incident, consequences.map (.run cause) ++ rest, serial, trace⟩ =
      incident.consequences ++ (consequences ++ waiting ⟨{}, rest, serial, trace⟩) := by
  simp [waiting, List.filterMap_append, List.filterMap_map]

namespace Accounted

variable {calls : List Call} {given : Nat → List Call} {incident : Incident Consequence}
  {rest agenda : List Task} {serial : Nat} {trace : List Event}

theorem ran {cause : Nat} {consequence : Consequence}
    (accounted : Accounted calls given ⟨incident, .run cause consequence :: rest, serial, trace⟩) :
    Accounted calls given (step ⟨incident, .run cause consequence :: rest, serial, trace⟩) := by
  obtain ⟨made, waits, registered, older⟩ := accounted
  have here : given consequence.id = consequence.calls ∧ consequence.id < serial :=
    waits consequence (by simp [waiting])
  have recorded : callsIn given (trace ++ [.ran consequence.id cause]) = callsIn given trace := by
    simp [callsIn]
  have run : callsRun given (trace ++ [.ran consequence.id cause]) =
      callsRun given trace ++ consequence.calls := by
    simp [callsRun, ranIn, here.1]
  constructor
  · simp only [step, recorded, run, callsDue_calls]
    rw [← List.append_assoc calls]
    refine List.Perm.trans ?_ (made.append_right consequence.calls)
    rw [List.append_assoc]
    exact List.perm_append_comm.append_left _
  · intro other member
    simp only [step, waiting_calls] at member
    refine waits other ?_
    simp only [waiting, List.mem_append, List.filterMap_cons, List.mem_cons] at member ⊢
    tauto
  · simpa [step, registeredIn] using registered
  · intro pair member
    simp only [step, ranIn, List.filterMap_append, List.mem_append] at member
    rcases member with earlier | now
    · exact older pair earlier
    · obtain rfl : pair = (consequence.id, cause) := by simpa using now
      exact here.2

theorem registers {own : List Call} {occurred : Bool} {after : Incident Consequence}
    (accounted : Accounted calls given ⟨incident, .call (.when own) :: rest, serial, trace⟩)
    (due : callsDue agenda = callsDue rest)
    (waits : ∀ consequence ∈ waiting ⟨after, agenda, serial, trace⟩,
      consequence = ⟨serial, own⟩ ∨ consequence ∈ waiting ⟨incident, rest, serial, trace⟩) :
    Accounted calls (Function.update given serial own)
      ⟨after, agenda, serial + 1, trace ++ [.when serial occurred]⟩ := by
  have same {id : Nat} (below : id < serial) : Function.update given serial own id = given id :=
    Function.update_of_ne (Nat.ne_of_lt below) _ _
  have recorded : callsIn (Function.update given serial own) (trace ++ [.when serial occurred]) =
      callsIn given trace ++ [.when own] := by
    rw [← callsIn_congr fun id member => same (accounted.registered id member)]
    simp [callsIn]
  have run : callsRun (Function.update given serial own) (trace ++ [.when serial occurred]) =
      callsRun given trace := by
    rw [← callsRun_congr fun pair member => same (accounted.older pair member)]
    simp [callsRun, ranIn]
  constructor
  · rw [recorded, run, due, List.append_assoc]
    exact accounted.made
  · intro consequence member
    rcases waits consequence member with rfl | earlier
    · exact ⟨Function.update_self _ _ _, Nat.lt_succ_self _⟩
    · have known := accounted.waits consequence earlier
      exact ⟨(same known.2).trans known.1, Nat.lt_succ_of_lt known.2⟩
  · intro id member
    simp only [registeredIn, List.filterMap_append, List.mem_append] at member
    rcases member with earlier | now
    · exact Nat.lt_succ_of_lt (accounted.registered id earlier)
    · obtain rfl : id = serial := by simpa using now
      exact Nat.lt_succ_self _
  · intro pair member
    refine Nat.lt_succ_of_lt (accounted.older pair ?_)
    simpa [ranIn] using member

theorem goes_on {request : Call} {event : Event} {next : Nat} {after : Incident Consequence}
    (accounted : Accounted calls given ⟨incident, .call request :: rest, serial, trace⟩)
    (recorded : callsIn given [event] = [request]) (quiet : registeredIn [event] = [])
    (due : callsDue agenda = callsDue rest) (issued : serial ≤ next)
    (waits : ∀ consequence ∈ waiting ⟨after, agenda, serial, trace⟩,
      consequence ∈ waiting ⟨incident, rest, serial, trace⟩) :
    Accounted calls given ⟨after, agenda, next, trace ++ [event]⟩ := by
  have still : ranIn [event] = [] := by
    cases event with
    | ran => simp [callsIn] at recorded
    | when | occur | reset => rfl
  have ran : ranIn (trace ++ [event]) = ranIn trace := by
    rw [ranIn, List.filterMap_append, ← ranIn, ← ranIn, still, List.append_nil]
  have registered : registeredIn (trace ++ [event]) = registeredIn trace := by
    rw [registeredIn, List.filterMap_append, ← registeredIn, ← registeredIn, quiet,
      List.append_nil]
  constructor
  · simp only [callsRun, ran]
    rw [callsIn, List.filterMap_append, ← callsIn, ← callsIn, recorded, due, List.append_assoc]
    exact accounted.made
  · intro consequence member
    have known := accounted.waits consequence (waits consequence member)
    exact ⟨known.1, Nat.lt_of_lt_of_le known.2 issued⟩
  · rw [registered]
    exact fun id member => Nat.lt_of_lt_of_le (accounted.registered id member) issued
  · rw [ran]
    exact fun pair member => Nat.lt_of_lt_of_le (accounted.older pair member) issued

protected theorem step {state : State} (accounted : Accounted calls given state) :
    ∃ others, Accounted calls others (step state) := by
  obtain ⟨⟨occurred, consequences⟩, agenda, serial, trace⟩ := state
  cases agenda with
  | nil => exact ⟨given, accounted.made, accounted.waits, accounted.registered, accounted.older⟩
  | cons task rest =>
    cases task with
    | run cause consequence => exact ⟨given, accounted.ran⟩
    | call request =>
      cases request with
      | when own =>
        refine ⟨Function.update given serial own, ?_⟩
        cases occurred with
        | false =>
          refine accounted.registers rfl fun consequence member => ?_
          have held : consequence ∈
              waiting ⟨⟨false, consequences ++ [⟨serial, own⟩]⟩, rest, serial, trace⟩ := member
          simp only [waiting, List.mem_append, List.mem_singleton] at held ⊢
          tauto
        | true =>
          refine accounted.registers rfl fun consequence member => ?_
          have next : consequence ∈
              waiting ⟨⟨true, consequences⟩, .run serial ⟨serial, own⟩ :: rest, serial, trace⟩ :=
            member
          simp only [waiting, List.filterMap_cons, List.mem_append, List.mem_cons] at next ⊢
          tauto
      | occur =>
        refine ⟨given, ?_⟩
        cases occurred with
        | false =>
          refine accounted.goes_on rfl rfl (callsDue_run serial consequences rest) (by simp) ?_
          intro consequence member
          simpa [occur, waiting_run, waiting] using member
        | true => exact accounted.goes_on rfl rfl rfl (by simp) fun _ member => member
      | reset =>
        refine ⟨given, accounted.goes_on rfl rfl rfl (by simp) fun consequence member => ?_⟩
        simp only [reset, waiting, List.nil_append] at member
        exact List.mem_append_right _ member

theorem reorder (accounted : Accounted calls given ⟨incident, rest, serial, trace⟩)
    (same : rest.Perm agenda) : Accounted calls given ⟨incident, agenda, serial, trace⟩ := by
  constructor
  · exact ((same.filterMap _).symm.append_left _).trans accounted.made
  · intro consequence member
    refine accounted.waits consequence ?_
    exact ((same.filterMap _).append_left _).mem_iff.mpr member
  · exact accounted.registered
  · exact accounted.older

end Accounted

theorem accounted_start (calls : List Call) (given : Nat → List Call) :
    Accounted calls given { agenda := calls.map .call } := by
  rw [← List.append_nil (calls.map Task.call)]
  constructor
  · simp [callsIn, callsDue, callsRun, ranIn]
  · rw [waiting_calls]
    exact List.forall_mem_nil _
  · exact List.forall_mem_nil _
  · exact List.forall_mem_nil _

theorem Accounted.done {calls : List Call} {given : Nat → List Call} {state : State}
    (accounted : Accounted calls given state) (idle : callsDue state.agenda = []) :
    (callsIn given state.trace).Perm (calls ++ callsRun given state.trace) := by
  have made := accounted.made
  rwa [idle, List.append_nil] at made

theorem accounted_run {calls : List Call} (steps : Nat) {state : State} {given : Nat → List Call}
    (accounted : Accounted calls given state) :
    ∃ others, Accounted calls others (run steps state) := by
  induction steps generalizing state given with
  | zero => exact ⟨given, accounted⟩
  | succ steps ih =>
    obtain ⟨others, accounted⟩ := accounted.step
    exact ih accounted

-- Every call comes to an end. A consequence is run once at most, if and only if it is owed and
-- by the call that owes it, not before that call, and one call runs them in the order in which
-- they were handed over. The trace has the calls that were given and those of what was run.
theorem complete_sound (calls : List Call) :
    (complete calls).agenda = [] ∧
      (registeredIn (complete calls).trace).Nodup ∧
      ((ranIn (complete calls).trace).map Prod.fst).Nodup ∧
      (∀ id cause, .ran id cause ∈ (complete calls).trace ↔ Owed (complete calls).trace id cause) ∧
      Always OwedBefore (complete calls).trace ∧
      Always Flagged (complete calls).trace ∧
      (∃ given, (callsIn given (complete calls).trace).Perm
        (calls ++ callsRun given (complete calls).trace)) ∧
      ∀ cause, (runsBy cause (ranIn (complete calls).trace)).Sublist
        (registeredIn (complete calls).trace) := by
  have sound : Sound (complete calls) := sound_run _ (sound_start calls)
  have done := agenda_complete calls
  have all : runs (complete calls) = ranIn (complete calls).trace := by
    rw [runs, done]
    exact List.append_nil _
  obtain ⟨meant, ordered, owedBefore⟩ := sound
  rw [all] at meant ordered
  refine ⟨done, ordered.distinct, ordered.once.of_append_right, ?_, owedBefore, meant.flagged, ?_,
    ordered.inOrder⟩
  · intro id cause
    rw [← mem_ranIn, meant.owed]
  · have start : Accounted calls (fun _ => []) { agenda := calls.map .call } :=
      accounted_start calls _
    obtain ⟨given, accounted⟩ := accounted_run (weights calls) start
    refine ⟨given, accounted.done ?_⟩
    rw [← complete, done]
    rfl

-- The first consequence resets the incident, registers another one and makes it occur.
example : ranIn (complete [.when [.reset, .when [], .occur], .when [], .occur]).trace =
    [(0, 2), (3, 4), (1, 2)] := by
  decide

end Incident

end MojoMedia.Framework
