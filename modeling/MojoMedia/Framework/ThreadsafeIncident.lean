import MojoMedia.Framework.IncidentCalls
import MojoMedia.Shared.Runs

set_option autoImplicit false

-- The sections of `ThreadsafeIncident` under its lock are the methods of `Incident`. What is run
-- is run when the lock has been left, so the calls of other threads come in between.
namespace MojoMedia.Framework

open Histories Runs

-- One incident, and what each thread is still to do before its outermost call returns.
structure ThreadsafeIncident where
  incident : Incident Incident.Consequence := {}
  agendas : List (List Incident.Task)
  serial : Nat := 0
  trace : List Incident.Event := []
  deriving Repr

namespace ThreadsafeIncident

open Incident

def view (shared : ThreadsafeIncident) (agenda : List Task) : Incident.State :=
  { incident := shared.incident, agenda, serial := shared.serial, trace := shared.trace }

def step (shared : ThreadsafeIncident) (thread : Nat) : Option ThreadsafeIncident :=
  match shared.agendas[thread]? with
  | none | some [] => none
  | some (task :: rest) =>
    let after := Incident.step (shared.view (task :: rest))
    some
      { incident := after.incident
        agendas := shared.agendas.set thread after.agenda
        serial := after.serial
        trace := after.trace }

def start (programs : List (List Call)) : ThreadsafeIncident :=
  { agendas := programs.map fun calls => calls.map .call }

theorem step_cases {shared next : ThreadsafeIncident} {thread : Nat}
    (taken : shared.step thread = some next) :
    ∃ left task rest right, shared.agendas = left ++ (task :: rest) :: right ∧
      next =
        { incident := (Incident.step (shared.view (task :: rest))).incident
          agendas := left ++ (Incident.step (shared.view (task :: rest))).agenda :: right
          serial := (Incident.step (shared.view (task :: rest))).serial
          trace := (Incident.step (shared.view (task :: rest))).trace } := by
  unfold step at taken
  split at taken
  next => cases taken
  next => cases taken
  next task rest found =>
    obtain ⟨inside, here⟩ := List.getElem?_eq_some_iff.mp found
    refine ⟨shared.agendas.take thread, task, rest, shared.agendas.drop (thread + 1), ?_, ?_⟩
    · rw [← here, List.getElem_cons_drop, List.take_append_drop]
    · rw [← Option.some.inj taken, List.set_eq_take_append_cons_drop, if_pos inside]

def weight (shared : ThreadsafeIncident) : Nat :=
  (shared.agendas.map fun agenda => (agenda.map Task.weight).sum).sum +
    (shared.incident.consequences.map Consequence.weight).sum

theorem weight_step {shared next : ThreadsafeIncident} {thread : Nat}
    (taken : shared.step thread = some next) : next.weight < shared.weight := by
  obtain ⟨left, task, rest, right, agendas, rfl⟩ := step_cases taken
  have lighter := @Incident.weight_step (shared.view (task :: rest)) (by simp [view])
  simp only [Incident.weight, view] at lighter
  simp only [weight, view, agendas, List.map_append, List.map_cons, List.sum_append, List.sum_cons]
    at lighter ⊢
  omega

def due (shared : ThreadsafeIncident) : List (Nat × Nat) := shared.agendas.flatMap dueIn

def runs (shared : ThreadsafeIncident) : List (Nat × Nat) := ranIn shared.trace ++ shared.due

def held (shared : ThreadsafeIncident) : List Nat :=
  shared.incident.consequences.map Consequence.id

def OneThread (agendas : List (List Task)) : Prop :=
  agendas.Pairwise fun left right =>
    ∀ first ∈ dueIn left, ∀ second ∈ dueIn right, first.2 ≠ second.2

structure Sound (shared : ThreadsafeIncident) : Prop where
  meant : Meant shared.incident.occurred shared.held shared.runs shared.trace
  ordered : Ordered shared.held shared.runs shared.serial (registeredIn shared.trace)
  owedBefore : Always OwedBefore shared.trace
  oneThread : OneThread shared.agendas

theorem Meant.congr {occurred : Bool} {held : List Nat} {runs others : List (Nat × Nat)}
    {trace : List Event} (meant : Meant occurred held runs trace)
    (same : ∀ pair, pair ∈ others ↔ pair ∈ runs) : Meant occurred held others trace :=
  ⟨fun id cause => (same (id, cause)).trans (meant.owed id cause), meant.initial, meant.empty,
    meant.flag, meant.flagged⟩

theorem Ordered.move {held registered : List Nat} {ran before after : List (Nat × Nat)}
    {serial : Nat} {pair : Nat × Nat}
    (ordered : Ordered held (ran ++ (before ++ pair :: after)) serial registered)
    (apart : ∀ other ∈ before, other.2 ≠ pair.2) :
    Ordered held (ran ++ pair :: (before ++ after)) serial registered := by
  have same : (ran ++ pair :: (before ++ after)).Perm (ran ++ (before ++ pair :: after)) :=
    List.perm_middle.symm.append_left ran
  have held_same := (same.map Prod.fst).append_left held
  refine ⟨held_same.nodup_iff.mpr ordered.once,
    fun id member => ordered.known id (held_same.mem_iff.mp member), ordered.issued,
    fun other member => ordered.causes other (same.mem_iff.mp member), ordered.distinct,
    ordered.heldInOrder, fun cause => ?_⟩
  have inOrder := ordered.inOrder cause
  have runsBy_cons (first : Nat × Nat) (rest : List (Nat × Nat)) :
      runsBy cause (first :: rest) = runsBy cause [first] ++ runsBy cause rest :=
    runsBy_append cause [first] rest
  rw [runsBy_append, runsBy_append, runsBy_cons] at inOrder
  rw [runsBy_append, runsBy_cons, runsBy_append]
  by_cases own : pair.2 = cause
  · have none : runsBy cause before = [] :=
      runsBy_eq_nil fun other member => own ▸ apart other member
    rw [none] at inOrder ⊢
    exact inOrder
  · have none : runsBy cause [pair] = [] := runsBy_eq_nil (by simpa using own)
    rw [none] at inOrder ⊢
    exact inOrder

theorem OneThread.replace {left right : List (List Task)} {old new : List Task} {serial : Nat}
    (oneThread : OneThread (left ++ old :: right))
    (causes : ∀ agenda ∈ left ++ right, ∀ pair ∈ dueIn agenda, pair.2 < serial)
    (due : ∀ pair ∈ dueIn new, pair ∈ dueIn old ∨ pair.2 = serial) :
    OneThread (left ++ new :: right) := by
  have symm {one two : List Task}
      (apart : ∀ first ∈ dueIn one, ∀ second ∈ dueIn two, first.2 ≠ second.2) :
      ∀ first ∈ dueIn two, ∀ second ∈ dueIn one, first.2 ≠ second.2 :=
    fun first here second there => (apart second there first here).symm
  rw [OneThread, List.pairwise_middle symm, List.pairwise_cons] at oneThread ⊢
  refine ⟨fun agenda member first here second there => ?_, oneThread.2⟩
  rcases due first here with earlier | fresh
  · exact oneThread.1 agenda member first earlier second there
  · rw [fresh]
    exact (Nat.ne_of_lt (causes agenda member second there)).symm

namespace Sound

section

variable {incident : Incident Consequence} {left right : List (List Task)} {rest : List Task}
  {serial : Nat} {trace : List Event}

theorem causes_of_due {task : Task}
    (sound : Sound ⟨incident, left ++ (task :: rest) :: right, serial, trace⟩) :
    ∀ agenda ∈ left ++ right, ∀ pair ∈ dueIn agenda, pair.2 < serial := by
  intro agenda member pair inside
  apply sound.ordered.causes
  simp only [runs, due, List.mem_append, List.mem_flatMap]
  refine .inr ⟨agenda, ?_, inside⟩
  simp only [List.mem_append, List.mem_cons] at member ⊢
  tauto

theorem ran {cause : Nat} {consequence : Consequence}
    (sound : Sound ⟨incident, left ++ (.run cause consequence :: rest) :: right, serial, trace⟩) :
    Sound ⟨incident, left ++ (consequence.calls.map .call ++ rest) :: right, serial,
      trace ++ [.ran consequence.id cause]⟩ := by
  have causes := sound.causes_of_due
  obtain ⟨meant, ordered, owedBefore, oneThread⟩ := sound
  have before : runs ⟨incident, left ++ (.run cause consequence :: rest) :: right, serial, trace⟩ =
      ranIn trace ++ (left.flatMap dueIn ++
        (consequence.id, cause) :: (dueIn rest ++ right.flatMap dueIn)) := by
    simp [runs, due, dueIn]
  have after : runs ⟨incident, left ++ (consequence.calls.map .call ++ rest) :: right, serial,
      trace ++ [.ran consequence.id cause]⟩ =
      ranIn trace ++ (consequence.id, cause) ::
        (left.flatMap dueIn ++ (dueIn rest ++ right.flatMap dueIn)) := by
    simp [runs, due, ranIn, dueIn_calls]
  have registered : registeredIn (trace ++ [.ran consequence.id cause]) = registeredIn trace := by
    simp [registeredIn]
  have owed : Owed trace consequence.id cause := by
    apply (meant.owed _ _).mp
    rw [before]
    simp
  rw [before] at meant ordered
  refine ⟨?_, ?_, ?_, ?_⟩
  · rw [after]
    refine (Meant.congr meant fun pair => ?_).ran _ _
    simp only [List.mem_append, List.mem_cons]
    tauto
  · rw [after, registered]
    refine Ordered.move ordered fun other member => ?_
    obtain ⟨agenda, inside, here⟩ := List.mem_flatMap.mp member
    have apart := (List.pairwise_append.mp oneThread).2.2 agenda inside
      (.run cause consequence :: rest) (by simp) other here (consequence.id, cause)
    exact apart (by simp [dueIn])
  · refine owedBefore.concat ?_
    intro id other equal
    cases equal
    exact owed
  · refine oneThread.replace causes fun pair member => .inl ?_
    rw [dueIn_calls] at member
    exact List.mem_cons_of_mem _ member

theorem stored {task : Task} {consequences : List Consequence} (calls : List Call)
    (sound : Sound ⟨⟨false, consequences⟩, left ++ (task :: rest) :: right, serial, trace⟩)
    (quiet : dueIn (task :: rest) = dueIn rest) :
    Sound ⟨⟨false, consequences ++ [⟨serial, calls⟩]⟩, left ++ rest :: right, serial + 1,
      trace ++ [.when serial false]⟩ := by
  have causes := sound.causes_of_due
  obtain ⟨meant, ordered, owedBefore, oneThread⟩ := sound
  have registered : registeredIn (trace ++ [.when serial false]) =
      registeredIn trace ++ [serial] := by simp [registeredIn]
  have same : runs ⟨⟨false, consequences ++ [⟨serial, calls⟩]⟩, left ++ rest :: right, serial + 1,
      trace ++ [.when serial false]⟩ =
      runs ⟨⟨false, consequences⟩, left ++ (task :: rest) :: right, serial, trace⟩ := by
    simp [runs, due, ranIn, quiet]
  refine ⟨?_, ?_, owedBefore_concat owedBefore (by simp), ?_⟩
  · rw [same]
    simp only [held, List.map_append]
    exact meant.stored serial
  · rw [same, registered]
    simp only [held, List.map_append]
    exact ordered.stored
  · exact oneThread.replace causes fun pair member => .inl (by rwa [quiet])

theorem immediate {consequences : List Consequence} {calls : List Call}
    (sound : Sound ⟨⟨true, consequences⟩, left ++ (.call (.when calls) :: rest) :: right, serial,
      trace⟩) :
    Sound ⟨⟨true, consequences⟩, left ++ (.run serial ⟨serial, calls⟩ :: rest) :: right,
      serial + 1, trace ++ [.when serial true]⟩ := by
  have causes := sound.causes_of_due
  obtain ⟨meant, ordered, owedBefore, oneThread⟩ := sound
  have registered : registeredIn (trace ++ [.when serial true]) =
      registeredIn trace ++ [serial] := by simp [registeredIn]
  have before : runs ⟨⟨true, consequences⟩, left ++ (.call (.when calls) :: rest) :: right, serial,
      trace⟩ = (ranIn trace ++ left.flatMap dueIn) ++ (dueIn rest ++ right.flatMap dueIn) := by
    simp [runs, due, dueIn]
  have after : runs ⟨⟨true, consequences⟩, left ++ (.run serial ⟨serial, calls⟩ :: rest) :: right,
      serial + 1, trace ++ [.when serial true]⟩ = (ranIn trace ++ left.flatMap dueIn) ++
        ([(serial, serial)] ++ (dueIn rest ++ right.flatMap dueIn)) := by
    simp [runs, due, ranIn, dueIn]
  rw [before] at meant ordered
  refine ⟨?_, ?_, owedBefore_concat owedBefore (by simp), ?_⟩
  · rw [after]
    exact meant.immediate serial
  · rw [after, registered]
    exact ordered.immediate
  · refine oneThread.replace causes fun pair member => ?_
    rcases List.mem_cons.mp member with rfl | earlier
    · exact .inr rfl
    · exact .inl earlier

theorem occurs {consequences : List Consequence}
    (sound : Sound
      ⟨⟨false, consequences⟩, left ++ (.call .occur :: rest) :: right, serial, trace⟩) :
    Sound ⟨⟨true, []⟩, left ++ (consequences.map (.run serial) ++ rest) :: right, serial + 1,
      trace ++ [.occur serial false]⟩ := by
  have causes := sound.causes_of_due
  obtain ⟨meant, ordered, owedBefore, oneThread⟩ := sound
  have registered : registeredIn (trace ++ [.occur serial false]) = registeredIn trace := by
    simp [registeredIn]
  have before : runs ⟨⟨false, consequences⟩, left ++ (.call .occur :: rest) :: right, serial,
      trace⟩ = (ranIn trace ++ left.flatMap dueIn) ++ (dueIn rest ++ right.flatMap dueIn) := by
    simp [runs, due, dueIn]
  have after : runs ⟨⟨true, []⟩, left ++ (consequences.map (.run serial) ++ rest) :: right,
      serial + 1, trace ++ [.occur serial false]⟩ = (ranIn trace ++ left.flatMap dueIn) ++
        ((consequences.map Consequence.id).map (·, serial) ++
          (dueIn rest ++ right.flatMap dueIn)) := by
    simp only [runs, due, List.flatMap_append, List.flatMap_cons, dueIn_run]
    simp [ranIn]
  rw [before] at meant ordered
  refine ⟨?_, ?_, owedBefore_concat owedBefore (by simp), ?_⟩
  · rw [after]
    exact meant.occurs serial
  · rw [after, registered]
    exact ordered.occurs
  · refine oneThread.replace causes fun pair member => ?_
    rw [dueIn_run] at member
    rcases List.mem_append.mp member with fresh | earlier
    · obtain ⟨id, -, rfl⟩ := List.mem_map.mp fresh
      exact .inr rfl
    · exact .inl earlier

theorem ignored {consequences : List Consequence}
    (sound : Sound ⟨⟨true, consequences⟩, left ++ (.call .occur :: rest) :: right, serial, trace⟩) :
    Sound ⟨⟨true, consequences⟩, left ++ rest :: right, serial + 1,
      trace ++ [.occur serial true]⟩ := by
  have causes := sound.causes_of_due
  obtain ⟨meant, ordered, owedBefore, oneThread⟩ := sound
  have registered : registeredIn (trace ++ [.occur serial true]) = registeredIn trace := by
    simp [registeredIn]
  have same : runs ⟨⟨true, consequences⟩, left ++ rest :: right, serial + 1,
      trace ++ [.occur serial true]⟩ =
      runs ⟨⟨true, consequences⟩, left ++ (.call .occur :: rest) :: right, serial, trace⟩ := by
    simp [runs, due, ranIn, dueIn]
  refine ⟨?_, ?_, owedBefore_concat owedBefore (by simp), ?_⟩
  · rw [same]
    exact meant.ignored serial
  · rw [same, registered]
    exact ordered.issue
  · exact oneThread.replace causes fun pair member => .inl member

theorem reset (sound : Sound ⟨incident, left ++ (.call .reset :: rest) :: right, serial, trace⟩) :
    Sound ⟨incident.reset, left ++ rest :: right, serial, trace ++ [.reset]⟩ := by
  have causes := sound.causes_of_due
  obtain ⟨meant, ordered, owedBefore, oneThread⟩ := sound
  have registered : registeredIn (trace ++ [.reset]) = registeredIn trace := by
    simp [registeredIn]
  have same : runs ⟨incident.reset, left ++ rest :: right, serial, trace ++ [.reset]⟩ =
      runs ⟨incident, left ++ (.call .reset :: rest) :: right, serial, trace⟩ := by
    simp [runs, due, ranIn, dueIn]
  refine ⟨?_, ?_, owedBefore_concat owedBefore (by simp), ?_⟩
  · rw [same]
    exact meant.reset
  · rw [same, registered]
    exact ordered.reset
  · exact oneThread.replace causes fun pair member => .inl member

end

protected theorem step {shared next : ThreadsafeIncident} {thread : Nat} (sound : Sound shared)
    (taken : shared.step thread = some next) : Sound next := by
  obtain ⟨left, task, rest, right, agendas, rfl⟩ := step_cases taken
  obtain ⟨⟨occurred, consequences⟩, threads, serial, trace⟩ := shared
  obtain rfl : threads = left ++ (task :: rest) :: right := agendas
  cases task with
  | run cause consequence => exact sound.ran
  | call request =>
    cases request with
    | when calls =>
      cases occurred with
      | false => exact sound.stored calls rfl
      | true => exact sound.immediate
    | occur =>
      cases occurred with
      | false => exact sound.occurs
      | true => exact sound.ignored
    | reset => exact sound.reset

end Sound

theorem sound_start (programs : List (List Call)) : Sound (start programs) := by
  have none : ∀ agenda ∈ programs.map (fun calls => calls.map Task.call), dueIn agenda = [] := by
    intro agenda member
    obtain ⟨calls, -, rfl⟩ := List.mem_map.mp member
    rw [← List.append_nil (calls.map Task.call), dueIn_calls]
    rfl
  have nothing : runs (start programs) = [] := List.flatMap_eq_nil_iff.mpr none
  refine ⟨?_, ?_, always_nil _, ?_⟩
  · rw [nothing]
    constructor
    · intro id cause
      simp [Owed, start]
    · intro _ id
      simp [held, start, not_since_nil]
    · exact fun _ => rfl
    · simp [start, not_since_nil]
    · exact always_nil _
  · rw [nothing]
    constructor <;> simp [held, start, registeredIn, runsBy]
  · refine List.pairwise_of_forall_mem_list fun agenda member other _ first here => ?_
    rw [none agenda member] at here
    cases here

def whole (shared : ThreadsafeIncident) : Incident.State := shared.view shared.agendas.flatten

theorem step_beside (state : Incident.State) (task : Task) (rest others : List Task) :
    Incident.step { state with agenda := task :: (rest ++ others) } =
      { Incident.step { state with agenda := task :: rest } with
        agenda := (Incident.step { state with agenda := task :: rest }).agenda ++ others } := by
  cases task with
  | run cause consequence => simp [Incident.step]
  | call request =>
    cases request with
    | when | occur | reset => simp [Incident.step, perform]

theorem accounted_step {shared next : ThreadsafeIncident} {thread : Nat} {calls : List Call}
    (accounted : ∃ given, Accounted calls given shared.whole)
    (taken : shared.step thread = some next) : ∃ given, Accounted calls given next.whole := by
  obtain ⟨given, accounted⟩ := accounted
  obtain ⟨left, task, rest, right, agendas, rfl⟩ := step_cases taken
  have first : shared.agendas.flatten.Perm (task :: (rest ++ (left.flatten ++ right.flatten))) := by
    rw [agendas, List.flatten_append, List.flatten_cons]
    exact List.perm_append_comm_assoc _ _ _
  obtain ⟨others, after⟩ := (accounted.reorder first).step
  have beside := step_beside shared.whole task rest (left.flatten ++ right.flatten)
  simp only [whole, view] at beside
  rw [beside] at after
  refine ⟨others, after.reorder ?_⟩
  simp only [List.flatten_append, List.flatten_cons]
  exact List.perm_append_comm_assoc _ _ _

theorem accounted_start (programs : List (List Call)) (given : Nat → List Call) :
    Accounted programs.flatten given (start programs).whole := by
  have whole : (start programs).whole = { agenda := programs.flatten.map .call } := by
    simp [ThreadsafeIncident.whole, start, view, List.map_flatten]
  rw [whole]
  exact Incident.accounted_start _ _

theorem agendas_done {shared : ThreadsafeIncident} (done : ∀ thread, shared.step thread = none) :
    ∀ agenda ∈ shared.agendas, agenda = [] := by
  intro agenda member
  obtain ⟨thread, inside, rfl⟩ := List.mem_iff_getElem.mp member
  have idle := done thread
  unfold step at idle
  rw [List.getElem?_eq_getElem inside] at idle
  cases here : shared.agendas[thread] with
  | nil => rfl
  | cons task rest => simp [here] at idle

-- However the threads take turns, their calls come to an end, and a consequence is run once at
-- most, by a call that owes it and after that call, in the order of registration among those of
-- one call. When the threads are done, all that is owed has been run, and the trace has the calls
-- of the threads and those of what was run.
theorem interleavings_sound {programs : List (List Call)} {schedule : List Nat}
    {final : ThreadsafeIncident} (reached : run step (start programs) schedule = some final) :
    schedule.length ≤ (start programs).weight ∧
      ((ranIn final.trace).map Prod.fst).Nodup ∧
      Always OwedBefore final.trace ∧
      Always Flagged final.trace ∧
      (∀ cause, (runsBy cause (ranIn final.trace)).Sublist (registeredIn final.trace)) ∧
      ((∀ thread, final.step thread = none) →
        (∀ id cause, .ran id cause ∈ final.trace ↔ Owed final.trace id cause) ∧
          ∃ given, (callsIn given final.trace).Perm
            (programs.flatten ++ callsRun given final.trace)) := by
  have sound : Sound final := invariant_of_run step Sound (fun _ _ _ => Sound.step) _ _ _
    (sound_start programs) reached
  refine ⟨?_, ?_, sound.owedBefore, sound.meant.flagged, fun cause => ?_, fun done => ⟨?_, ?_⟩⟩
  · exact length_le_of_decreases step (fun _ => True) weight
      (fun _ _ _ _ taken => weight_step taken) _ _ _ (fun _ _ => trivial) reached
  · have once := sound.ordered.once.of_append_right
    rw [runs, List.map_append] at once
    exact once.of_append_left
  · have inOrder := sound.ordered.inOrder cause
    rw [runs, runsBy_append] at inOrder
    exact (List.sublist_append_left _ _).trans inOrder
  · intro id cause
    have empty : final.due = [] := by
      refine List.flatMap_eq_nil_iff.mpr fun agenda member => ?_
      rw [agendas_done done agenda member]
      rfl
    have owed := sound.meant.owed id cause
    rw [runs, empty, List.append_nil, mem_ranIn] at owed
    exact owed
  · have start : ∃ given, Accounted programs.flatten given (start programs).whole :=
      ⟨fun _ => [], accounted_start programs _⟩
    obtain ⟨given, accounted⟩ := invariant_of_run step
      (fun shared => ∃ given, Accounted programs.flatten given shared.whole)
      (fun _ _ _ => accounted_step) _ _ _ start reached
    refine ⟨given, accounted.done ?_⟩
    have idle : final.agendas.flatten = [] := List.flatten_eq_nil_iff.mpr (agendas_done done)
    rw [whole, view, idle]
    rfl

-- One thread registers two consequences, the first of which resets the incident, while the other
-- makes it occur twice.
theorem interleavings_sound_two_threads :
    ∃ final, run step (start [[.when [.reset], .when []], [.occur, .occur]]) [0, 1, 0, 1, 1, 1, 0] =
        some final ∧
      ((ranIn final.trace).map Prod.fst).Nodup ∧
      (∀ id cause, .ran id cause ∈ final.trace ↔ Owed final.trace id cause) ∧
      ∃ given, (callsIn given final.trace).Perm
        ([.when [.reset], .when [], .occur, .occur] ++ callsRun given final.trace) := by
  obtain ⟨final, reached, done⟩ : ∃ final,
      run step (start [[.when [.reset], .when []], [.occur, .occur]]) [0, 1, 0, 1, 1, 1, 0] =
        some final ∧ final.agendas = [[], []] := ⟨_, rfl, rfl⟩
  have ended : ∀ thread, final.step thread = none := by
    intro thread
    rw [step, done]
    match thread with
    | 0 | 1 | _ + 2 => rfl
  have sound := interleavings_sound reached
  exact ⟨final, reached, sound.2.1, sound.2.2.2.2.2 ended⟩

end ThreadsafeIncident

end MojoMedia.Framework
