import MojoMedia.MessagePump.WatcherBackend

set_option autoImplicit false

namespace MojoMedia.WatcherThreadManager

open Runs

def isStarting (watcherId : Nat) : CallStage → Bool
  | .starting data => data.id == watcherId
  | _ => false

def isStop (call : Nat) : Request → Bool
  | .stop _ other => other == call
  | .start _ => false

def startingCount (calls : List CallStage) (watcherId : Nat) : Nat :=
  calls.countP (isStarting watcherId)

def startCount (requests : List Request) (watcherId : Nat) : Nat :=
  requests.countP (isStart watcherId)

def stopCount (requests : List Request) (call : Nat) : Nat := requests.countP (isStop call)

theorem countP_set {Element : Type} {elements : List Element} {index : Nat} {old : Element}
    (found : elements[index]? = some old) (new : Element) (counted : Element → Bool) :
    (elements.set index new).countP counted + (if counted old then 1 else 0) =
      elements.countP counted + if counted new then 1 else 0 := by
  obtain ⟨bound, rfl⟩ := List.getElem?_eq_some_iff.mp found
  rw [List.countP_set bound]
  have positive : (if counted elements[index] then 1 else 0) ≤ elements.countP counted := by
    split_ifs with here
    · exact List.countP_pos_iff.mpr ⟨_, List.getElem_mem bound, here⟩
    · exact Nat.zero_le _
  omega

theorem countP_eraseP {Element : Type} {elements : List Element} {wanted : Element → Bool}
    (any : elements.any wanted = true) :
    ∃ erased, wanted erased = true ∧ ∀ counted : Element → Bool,
      (elements.eraseP wanted).countP counted + (if counted erased then 1 else 0) =
        elements.countP counted := by
  obtain ⟨element, inside, isWanted⟩ := List.any_eq_true.mp any
  obtain ⟨erased, before, after, -, isErased, split, rest⟩ := List.exists_of_eraseP inside isWanted
  refine ⟨erased, isErased, ?_⟩
  intro counted
  rw [rest, split, List.countP_append, List.countP_append, List.countP_cons]
  omega

def watch : CallStage → Nat
  | .starting data => data.id
  | .startPosting watcherId | .started watcherId | .cancelled watcherId | .stopping watcherId
  | .stopPosting watcherId | .waiting watcherId | .stopped watcherId => watcherId

def hasQueued : CallStage → Bool
  | .stopPosting _ | .waiting _ | .stopped _ => true
  | .starting _ | .startPosting _ | .started _ | .cancelled _ | .stopping _ => false

def hasScanned : CallStage → Bool
  | .cancelled _ | .stopping _ | .stopPosting _ | .waiting _ | .stopped _ => true
  | .starting _ | .startPosting _ | .started _ => false

def isPosting : CallStage → Bool
  | .startPosting _ | .stopPosting _ => true
  | _ => false

def hasStopped : CallStage → Bool
  | .cancelled _ | .stopped _ => true
  | _ => false

structure Moves (old new : CallStage) : Prop where
  watch : watch new = watch old
  waited : ∀ id, isStarting id old = false
  free : ∀ id, isStarting id new = false
  queued : hasQueued new = hasQueued old
  scanned : hasScanned new = hasScanned old

inductive Adds (call : Nat) : CallStage → Request → CallStage → Prop
  | startPosting (data : WatchData) :
    Adds call (.starting data) (.start data) (.startPosting data.id)
  | started (data : WatchData) : Adds call (.starting data) (.start data) (.started data.id)
  | stopPosting (watcherId : Nat) :
    Adds call (.stopping watcherId) (.stop watcherId call) (.stopPosting watcherId)
  | waiting (watcherId : Nat) :
    Adds call (.stopping watcherId) (.stop watcherId call) (.waiting watcherId)

theorem Adds.watch {call : Nat} {old new : CallStage} {request : Request}
    (adds : Adds call old request new) :
    WatcherThreadManager.watch new = WatcherThreadManager.watch old := by
  cases adds <;> rfl

theorem Adds.free {call : Nat} {old new : CallStage} {request : Request}
    (adds : Adds call old request new) (id : Nat) : isStarting id new = false := by
  cases adds <;> rfl

theorem Adds.idle {call : Nat} {old new : CallStage} {request : Request}
    (adds : Adds call old request new) : hasQueued old = false ∧ isPosting old = false := by
  cases adds <;> exact ⟨rfl, rfl⟩

theorem Adds.stages {call : Nat} {old new : CallStage} {request : Request}
    (adds : Adds call old request new) :
    hasScanned new = hasScanned old ∧ hasStopped new = false := by
  cases adds <;> exact ⟨rfl, rfl⟩

theorem Adds.stops {call : Nat} {old new : CallStage} {request : Request}
    (adds : Adds call old request new) (other : Nat) :
    isStop other request = (hasQueued new && call == other) := by
  cases adds <;> rfl

theorem Adds.starts {call : Nat} {old new : CallStage} {request : Request}
    (adds : Adds call old request new) (id : Nat) : isStart id request = isStarting id old := by
  cases adds <;> rfl

theorem stop_cases {manager next : WatcherThreadManager} {watcherId : Nat}
    (taken : manager.step (.stop watcherId) = some next) :
    .started watcherId ∈ manager.calls ∧
      ((manager.requests.any (isStart watcherId) = true ∧ next = { manager with
          requests := manager.requests.eraseP (isStart watcherId)
          calls := manager.calls ++ [.cancelled watcherId] }) ∨
        (manager.requests.any (isStart watcherId) = false ∧
          next = { manager with calls := manager.calls ++ [.stopping watcherId] })) := by
  simp only [step] at taken
  split_ifs at taken with started queued
  · exact ⟨started, .inl ⟨queued, (Option.some.inj taken).symm⟩⟩
  · exact ⟨started, .inr ⟨Bool.eq_false_iff.mpr queued, (Option.some.inj taken).symm⟩⟩

theorem add_cases {manager next : WatcherThreadManager} {call : Nat}
    (taken : manager.step (.add call) = some next) :
    ∃ old request new, manager.calls[call]? = some old ∧ Adds call old request new ∧
      isPosting new = manager.requests.isEmpty ∧ next = { manager with
        requests := manager.requests ++ [request]
        calls := manager.calls.set call new
        opener := if manager.requests.isEmpty then some call else manager.opener } := by
  simp only [step] at taken
  split at taken
  next data found =>
    cases taken
    refine ⟨_, _, _, found, ?_, ?_, rfl⟩
    · split_ifs
      · exact .startPosting data
      · exact .started data
    · split_ifs with empty <;> simp [isPosting, empty]
  next watcherId found =>
    cases taken
    refine ⟨_, _, _, found, ?_, ?_, rfl⟩
    · split_ifs
      · exact .stopPosting watcherId
      · exact .waiting watcherId
    · split_ifs with empty <;> simp [isPosting, empty]
  next => cases taken

theorem post_cases {manager next : WatcherThreadManager} {call : Nat}
    (taken : manager.step (.post call) = some next) :
    ∃ old new, manager.calls[call]? = some old ∧ Moves old new ∧ hasStopped new = false ∧
      isPosting old = true ∧ isPosting new = false ∧ next = { manager with
        tasks := manager.tasks ++ [call]
        calls := manager.calls.set call new } := by
  simp only [step] at taken
  split at taken
  next watcherId found =>
    cases taken
    exact ⟨_, .started watcherId, found, ⟨rfl, fun _ => rfl, fun _ => rfl, rfl, rfl⟩, rfl,
      rfl, rfl, rfl⟩
  next watcherId found =>
    cases taken
    exact ⟨_, .waiting watcherId, found, ⟨rfl, fun _ => rfl, fun _ => rfl, rfl, rfl⟩, rfl,
      rfl, rfl, rfl⟩
  next => cases taken

theorem wake_cases {manager next : WatcherThreadManager} {call : Nat}
    (taken : manager.step (.wake call) = some next) :
    ∃ old new, manager.calls[call]? = some old ∧ Moves old new ∧ isPosting old = false ∧
      call ∈ manager.signals ∧ next = { manager with calls := manager.calls.set call new } := by
  simp only [step] at taken
  split at taken
  next watcherId found =>
    split_ifs at taken with signalled
    cases taken
    exact ⟨_, .stopped watcherId, found, ⟨rfl, fun _ => rfl, fun _ => rfl, rfl, rfl⟩, rfl,
      signalled, rfl⟩
  next => cases taken

theorem swap_cases {manager next : WatcherThreadManager} (taken : manager.step .swap = some next) :
    ∃ task tasks, manager.batch = [] ∧ manager.tasks = task :: tasks ∧
      next = { manager with tasks, batch := manager.requests, requests := [] } := by
  simp only [step] at taken
  split at taken
  next task tasks batch posted =>
    cases taken
    exact ⟨_, _, batch, posted, rfl⟩
  next => cases taken

theorem process_cases {manager next : WatcherThreadManager}
    (taken : manager.step .process = some next) :
    ∃ request rest, manager.batch = request :: rest ∧
      { manager with batch := rest }.handleRequest request = some next := by
  simp only [step] at taken
  split at taken
  next request rest batch => exact ⟨request, rest, batch, taken⟩
  next => cases taken

theorem handleRequest_frame {manager next : WatcherThreadManager} {request : Request}
    (handled : manager.handleRequest request = some next) :
    ∃ backend signals, next = { manager with backend, signals } := by
  cases request with
  | start data =>
    obtain ⟨backend, -, rfl⟩ := Option.map_eq_some_iff.mp handled
    exact ⟨backend, manager.signals, rfl⟩
  | stop watcherId call =>
    obtain ⟨backend, -, rfl⟩ := Option.map_eq_some_iff.mp handled
    exact ⟨backend, _, rfl⟩

theorem work_cases {manager next : WatcherThreadManager} {result : WaitManyResult} {now : Int}
    (taken : manager.step (.work result now) = some next) :
    ∃ backend, manager.backend.doInternalWork WatcherBackend.handlers result now = some backend ∧
      next = { manager with backend } := by
  simp only [step] at taken
  split_ifs at taken
  obtain ⟨backend, worked, rfl⟩ := Option.map_eq_some_iff.mp taken
  exact ⟨backend, worked, rfl⟩

def places (manager : WatcherThreadManager) (watcherId : Nat) : Nat :=
  startingCount manager.calls watcherId + startCount manager.requests watcherId +
    startCount manager.batch watcherId + manager.backend.state.watchedCount watcherId

def Dead (manager : WatcherThreadManager) (watcherId : Nat) : Prop :=
  manager.places watcherId = 0

def Ordered : List Request → Prop
  | [] => True
  | .start _ :: rest => Ordered rest
  | .stop watcherId _ :: rest => startCount rest watcherId = 0 ∧ Ordered rest

structure Shrinks (before after : WatcherThreadManager) (watcherId : Nat) : Prop where
  starting : startingCount after.calls watcherId ≤ startingCount before.calls watcherId
  front : startingCount after.calls watcherId + startCount after.requests watcherId ≤
    startingCount before.calls watcherId + startCount before.requests watcherId
  places : after.places watcherId ≤ before.places watcherId
  posted : before.backend.state.postedCount watcherId ≤ after.backend.state.postedCount watcherId
  total : after.places watcherId + after.backend.state.postedCount watcherId ≤
    before.places watcherId + before.backend.state.postedCount watcherId

theorem shrinks_of_calls {before after : WatcherThreadManager} {watcherId : Nat}
    (calls : startingCount after.calls watcherId ≤ startingCount before.calls watcherId)
    (requests : startCount after.requests watcherId ≤ startCount before.requests watcherId)
    (batch : after.batch = before.batch) (backend : after.backend = before.backend) :
    Shrinks before after watcherId := by
  have places : after.places watcherId ≤ before.places watcherId := by
    simp only [WatcherThreadManager.places, batch, backend]
    omega
  refine { starting := calls, front := by omega, places, posted := ?_, total := ?_ }
  · exact Nat.le_of_eq (by rw [backend])
  · rw [backend]
    omega

theorem startingCount_set {calls : List CallStage} {call : Nat} {old new : CallStage}
    (found : calls[call]? = some old) (newStage : ∀ id, isStarting id new = false)
    (watcherId : Nat) :
    startingCount (calls.set call new) watcherId + (if isStarting watcherId old then 1 else 0) =
      startingCount calls watcherId := by
  have counted := countP_set found new (isStarting watcherId)
  rw [newStage] at counted
  exact counted

theorem startingCount_append (calls : List CallStage) {new : CallStage}
    (newStage : ∀ id, isStarting id new = false) (watcherId : Nat) :
    startingCount (calls ++ [new]) watcherId = startingCount calls watcherId := by
  simp [startingCount, List.countP_append, newStage]

theorem move_shrinks {manager : WatcherThreadManager} {call : Nat} {old new : CallStage}
    (found : manager.calls[call]? = some old) (moves : Moves old new) (tasks : List Nat)
    (watcherId : Nat) :
    Shrinks manager { manager with tasks, calls := manager.calls.set call new } watcherId := by
  refine shrinks_of_calls ?_ (Nat.le_refl _) rfl rfl
  have counted := startingCount_set found moves.free watcherId
  simp only
  omega

theorem add_shrinks {manager : WatcherThreadManager} {call : Nat} {old new : CallStage}
    {request : Request} (found : manager.calls[call]? = some old)
    (adds : Adds call old request new) (opener : Option Nat) (watcherId : Nat) :
    Shrinks manager { manager with
      requests := manager.requests ++ [request]
      calls := manager.calls.set call new
      opener } watcherId := by
  have counted := startingCount_set found adds.free watcherId
  rw [← adds.starts watcherId] at counted
  constructor <;> simp only [WatcherThreadManager.places, startCount,
    List.countP_append, List.countP_singleton] <;> omega

theorem handleRequest_shrinks {manager next : WatcherThreadManager} {request : Request}
    {rest : List Request} (matched : Matched manager.backend)
    (batch : manager.batch = request :: rest)
    (handled : { manager with batch := rest }.handleRequest request = some next) :
    (∀ watcherId, Shrinks manager next watcherId) ∧ Matched next.backend := by
  cases request with
  | start data =>
    obtain ⟨backend, reacted, kept, counts⟩ := startWatching_react matched data
    simp only [handleRequest, reacted, Option.map_some, Option.some.injEq] at handled
    subst handled
    refine ⟨?_, kept⟩
    intro watcherId
    have moved := counts watcherId
    by_cases same : data.id = watcherId
    · simp only [same, beq_self_eq_true, if_true] at moved
      constructor <;> simp only [WatcherThreadManager.places, startCount, batch, List.countP_cons,
        isStart, same, beq_self_eq_true, if_true] <;> omega
    · simp only [beq_eq_false_iff_ne.mpr same, Bool.false_eq_true, if_false] at moved
      constructor <;> simp only [WatcherThreadManager.places, startCount, batch, List.countP_cons,
        isStart, beq_eq_false_iff_ne.mpr same, Bool.false_eq_true, if_false] <;> omega
  | stop watcherId call =>
    obtain ⟨backend, reacted, kept, counts, -⟩ := stopWatching_react matched watcherId
    simp only [handleRequest, reacted, Option.map_some, Option.some.injEq] at handled
    subst handled
    refine ⟨?_, kept⟩
    intro other
    have moved := counts other
    constructor <;> simp only [WatcherThreadManager.places, startCount, batch, List.countP_cons,
      isStart, Bool.false_eq_true, if_false] <;> omega

theorem work_shrinks {manager : WatcherThreadManager} {backend : Pumping WatcherBackend}
    {result : WaitManyResult} {now : Int} (matched : Matched manager.backend)
    (worked : manager.backend.doInternalWork WatcherBackend.handlers result now = some backend) :
    (∀ watcherId, Shrinks manager { manager with backend } watcherId) ∧ Matched backend := by
  obtain ⟨kept, moves⟩ := work_follows matched worked
  refine ⟨?_, kept⟩
  intro watcherId
  have moved := moves watcherId
  constructor <;> simp only [WatcherThreadManager.places] <;> omega

theorem step_shrinks {manager next : WatcherThreadManager} {event : Event}
    (matched : Matched manager.backend) (taken : manager.step event = some next) :
    Matched next.backend ∧ (next.nextWatcherId = manager.nextWatcherId ∨
        ∃ handle deadline, event = .start handle deadline) ∧
      ∀ watcherId, watcherId ≠ manager.nextWatcherId ∨
        next.nextWatcherId = manager.nextWatcherId → Shrinks manager next watcherId := by
  cases event with
  | start handle deadline =>
    cases taken
    refine ⟨matched, .inr ⟨handle, deadline, rfl⟩, ?_⟩
    rintro watcherId (other | same)
    · refine shrinks_of_calls (Nat.le_of_eq ?_) (Nat.le_refl _) rfl rfl
      simp [startingCount, List.countP_append, isStarting, Ne.symm other]
    · exact absurd same (Nat.succ_ne_self _)
  | stop watcherId =>
    obtain ⟨-, ⟨queued, rfl⟩ | ⟨-, rfl⟩⟩ := stop_cases taken
    · refine ⟨matched, .inl rfl, fun other _ => ?_⟩
      obtain ⟨erased, -, counted⟩ := countP_eraseP queued
      have counts := counted (isStart other)
      refine shrinks_of_calls ?_ ?_ rfl rfl
      · exact Nat.le_of_eq (startingCount_append _ (fun _ => rfl) other)
      · simp only [startCount]
        omega
    · refine ⟨matched, .inl rfl, fun other _ => ?_⟩
      refine shrinks_of_calls ?_ (Nat.le_refl _) rfl rfl
      exact Nat.le_of_eq (startingCount_append _ (fun _ => rfl) other)
  | add call =>
    obtain ⟨old, request, new, found, adds, -, rfl⟩ := add_cases taken
    exact ⟨matched, .inl rfl, fun other _ => add_shrinks found adds _ other⟩
  | post call =>
    obtain ⟨old, new, found, moves, -, -, -, rfl⟩ := post_cases taken
    exact ⟨matched, .inl rfl, fun other _ => move_shrinks found moves _ other⟩
  | wake call =>
    obtain ⟨old, new, found, moves, -, -, rfl⟩ := wake_cases taken
    exact ⟨matched, .inl rfl, fun other _ => move_shrinks found moves manager.tasks other⟩
  | swap =>
    obtain ⟨task, tasks, batch, -, rfl⟩ := swap_cases taken
    refine ⟨matched, .inl rfl, fun other _ => ?_⟩
    constructor <;> simp only [WatcherThreadManager.places, startCount, batch,
      List.countP_nil] <;> omega
  | process =>
    obtain ⟨request, rest, batch, handled⟩ := process_cases taken
    obtain ⟨shrinks, kept⟩ := handleRequest_shrinks matched batch handled
    obtain ⟨backend, signals, rfl⟩ := handleRequest_frame handled
    exact ⟨kept, .inl rfl, fun other _ => shrinks other⟩
  | work result now =>
    obtain ⟨backend, worked, rfl⟩ := work_cases taken
    obtain ⟨shrinks, kept⟩ := work_shrinks matched worked
    exact ⟨kept, .inl rfl, fun other _ => shrinks other⟩

structure Placed (manager : WatcherThreadManager) : Prop where
  matched : Matched manager.backend
  single : ∀ watcherId,
    manager.places watcherId + manager.backend.state.postedCount watcherId ≤ 1
  fresh : ∀ watcherId, manager.nextWatcherId ≤ watcherId →
    manager.places watcherId + manager.backend.state.postedCount watcherId = 0

theorem placed_start : Placed {} where
  matched := ⟨fun _ => rfl, fun _ _ found => by simp at found⟩
  single _ := Nat.zero_le 1
  fresh _ _ := rfl

theorem step_placed (manager : WatcherThreadManager) (event : Event) (next : WatcherThreadManager)
    (placed : Placed manager) (taken : manager.step event = some next) : Placed next := by
  obtain ⟨matched, same | ⟨handle, deadline, rfl⟩, shrinks⟩ := step_shrinks placed.matched taken
  · refine ⟨matched, ?_, ?_⟩
    · intro watcherId
      exact Nat.le_trans (shrinks watcherId (.inr same)).total (placed.single watcherId)
    · intro watcherId unknown
      have before := placed.fresh watcherId (same ▸ unknown)
      have after := (shrinks watcherId (.inr same)).total
      omega
  · have none := placed.fresh manager.nextWatcherId (Nat.le_refl _)
    cases taken
    refine ⟨matched, ?_, ?_⟩
    · intro watcherId
      by_cases new : watcherId = manager.nextWatcherId
      · subst new
        simp only [places, startingCount, List.countP_append, List.countP_singleton,
          isStarting, beq_self_eq_true, if_true] at none ⊢
        omega
      · exact Nat.le_trans (shrinks watcherId (.inl new)).total (placed.single watcherId)
    · intro watcherId unknown
      have later : manager.nextWatcherId < watcherId := unknown
      have before := placed.fresh watcherId (Nat.le_of_lt later)
      have after := (shrinks watcherId (.inl (Nat.ne_of_gt later))).total
      omega

structure Fits (manager : WatcherThreadManager) (stage : CallStage) : Prop where
  issued : watch stage < manager.nextWatcherId
  added : isStarting (watch stage) stage = false →
    startingCount manager.calls (watch stage) = 0
  scanned : hasScanned stage → startCount manager.requests (watch stage) = 0
  dead : hasStopped stage → manager.Dead (watch stage)

theorem not_isStarting {stage : CallStage} (scanned : hasScanned stage) (id : Nat) :
    isStarting id stage = false := by
  cases stage with
  | starting | startPosting | started => cases scanned
  | cancelled | stopping | stopPosting | waiting | stopped => rfl

theorem Fits.shrinks {manager next : WatcherThreadManager} {stage : CallStage}
    (fits : Fits manager stage) (shrinks : Shrinks manager next (watch stage))
    (grows : manager.nextWatcherId ≤ next.nextWatcherId) : Fits next stage where
  issued := Nat.lt_of_lt_of_le fits.issued grows
  added free := Nat.le_zero.mp (fits.added free ▸ shrinks.starting)
  scanned scanned := by
    have before := fits.scanned scanned
    have none := fits.added (not_isStarting scanned _)
    have after := shrinks.front
    omega
  dead stopped := by
    have before := fits.dead stopped
    have after := shrinks.places
    unfold Dead at before ⊢
    omega

def Known (manager : WatcherThreadManager) : Prop := ∀ stage ∈ manager.calls, Fits manager stage

theorem Fits.advance {manager : WatcherThreadManager} {old new : CallStage}
    (fits : Fits manager old) (same : watch new = watch old)
    (free : isStarting (watch old) old = false) (scanned : hasScanned new → hasScanned old)
    (dead : hasStopped new → manager.Dead (watch old)) : Fits manager new where
  issued := same ▸ fits.issued
  added _ := same ▸ fits.added free
  scanned after := same ▸ fits.scanned (scanned after)
  dead stopped := same ▸ dead stopped

theorem Known.old {manager next : WatcherThreadManager} {event : Event} (placed : Placed manager)
    (known : Known manager) (taken : manager.step event = some next) {stage : CallStage}
    (before : stage ∈ manager.calls) : Fits next stage := by
  obtain ⟨-, growth, shrinks⟩ := step_shrinks placed.matched taken
  have fits := known stage before
  refine fits.shrinks (shrinks _ (.inl (Nat.ne_of_lt fits.issued))) ?_
  rcases growth with same | ⟨handle, deadline, rfl⟩
  · exact Nat.le_of_eq same.symm
  · cases taken
    exact Nat.le_succ _

theorem stop_fits {manager next : WatcherThreadManager} {watcherId : Nat} (placed : Placed manager)
    (known : Known manager) (taken : manager.step (.stop watcherId) = some next) :
    ∃ stage, next.calls = manager.calls ++ [stage] ∧ Fits next stage := by
  have kept : ∀ stage ∈ manager.calls, Fits next stage :=
    fun _ before => known.old placed taken before
  obtain ⟨started, ⟨queued, rfl⟩ | ⟨absent, rfl⟩⟩ := stop_cases taken
  · have single := placed.single watcherId
    have fits := kept _ started
    obtain ⟨erased, isErased, counted⟩ := countP_eraseP queued
    have counts := counted (isStart watcherId)
    rw [isErased] at counts
    simp only [if_true] at counts
    refine ⟨_, rfl, fits.issued, fun _ => fits.added rfl, ?_, ?_⟩
    · intro _
      simp only [places, startCount, watch] at single ⊢
      omega
    · intro _
      have calls := @startingCount_append manager.calls (.cancelled watcherId)
        (fun _ => rfl) watcherId
      simp only [places, startCount, watch, Dead, calls] at single ⊢
      omega
  · have fits := kept _ started
    refine ⟨_, rfl, fits.issued, fun _ => fits.added rfl, ?_, nofun⟩
    intro _
    have none : ∀ request ∈ manager.requests, ¬ isStart watcherId request = true := by
      simpa using absent
    exact List.countP_eq_zero.mpr none

theorem add_fits {manager next : WatcherThreadManager} {call : Nat} (placed : Placed manager)
    (known : Known manager) (taken : manager.step (.add call) = some next) :
    ∃ stage, next.calls = manager.calls.set call stage ∧ Fits next stage := by
  have kept : ∀ stage ∈ manager.calls, Fits next stage :=
    fun _ before => known.old placed taken before
  obtain ⟨old, request, new, found, adds, -, rfl⟩ := add_cases taken
  have fits := kept old (List.mem_of_getElem? found)
  obtain ⟨scanned, stopped⟩ := adds.stages
  refine ⟨new, rfl, adds.watch ▸ fits.issued, fun _ => ?_, ?_, ?_⟩
  · rw [adds.watch]
    cases starting : isStarting (watch old) old with
    | false => exact fits.added starting
    | true =>
      have counted := startingCount_set found adds.free (watch old)
      have single := placed.single (watch old)
      simp only [starting, if_true, places] at counted single ⊢
      omega
  · rw [scanned, adds.watch]
    exact fits.scanned
  · rw [stopped]
    nofun

theorem post_fits {manager next : WatcherThreadManager} {call : Nat} (placed : Placed manager)
    (known : Known manager) (taken : manager.step (.post call) = some next) :
    ∃ stage, next.calls = manager.calls.set call stage ∧ Fits next stage := by
  have kept : ∀ stage ∈ manager.calls, Fits next stage :=
    fun _ before => known.old placed taken before
  obtain ⟨old, new, found, moves, stopped, -, -, rfl⟩ := post_cases taken
  have fits := kept old (List.mem_of_getElem? found)
  refine ⟨new, rfl, fits.advance moves.watch (moves.waited _) ?_ ?_⟩
  · rw [moves.scanned]
    exact id
  · rw [stopped]
    nofun

def queued (calls : List CallStage) (call : Nat) : Bool := (calls[call]?.map hasQueued).getD false

structure Accounted (manager : WatcherThreadManager) : Prop where
  once : ∀ call, stopCount manager.requests call + stopCount manager.batch call +
    manager.signals.count call = (queued manager.calls call).toNat
  linked : ∀ watcherId call, .stop watcherId call ∈ manager.requests ++ manager.batch →
    ∃ stage, manager.calls[call]? = some stage ∧ watch stage = watcherId ∧ hasQueued stage

theorem accounted_start : Accounted {} where
  once _ := rfl
  linked _ _ member := by simp at member

theorem stopCount_append (requests : List Request) (request : Request) (call : Nat) :
    stopCount (requests ++ [request]) call =
      stopCount requests call + if isStop call request then 1 else 0 := by
  simp [stopCount, List.countP_append, List.countP_cons]

def Advances (before after : List CallStage) : Prop :=
  ∀ (call : Nat) (stage : CallStage), before[call]? = some stage →
    ∃ later, after[call]? = some later ∧ watch later = watch stage ∧
      (hasQueued stage → hasQueued later)

theorem advances_refl (calls : List CallStage) : Advances calls calls :=
  fun _ stage found => ⟨stage, found, rfl, id⟩

theorem advances_append (calls : List CallStage) (new : CallStage) :
    Advances calls (calls ++ [new]) := by
  intro call stage found
  have bound := (List.getElem?_eq_some_iff.mp found).1
  exact ⟨stage, by rw [List.getElem?_append_left bound, found], rfl, id⟩

theorem advances_set {calls : List CallStage} {index : Nat} {old new : CallStage}
    (found : calls[index]? = some old) (same : watch new = watch old)
    (queued : hasQueued old → hasQueued new) : Advances calls (calls.set index new) := by
  intro call stage there
  have bound := (List.getElem?_eq_some_iff.mp found).1
  by_cases here : index = call
  · subst here
    cases found.symm.trans there
    exact ⟨new, by rw [List.getElem?_set_self bound], same, queued⟩
  · exact ⟨stage, by rw [List.getElem?_set_ne here, there], rfl, id⟩

theorem queued_append (calls : List CallStage) {new : CallStage} (none : hasQueued new = false)
    (call : Nat) : queued (calls ++ [new]) call = queued calls call := by
  unfold queued
  rcases Nat.lt_trichotomy call calls.length with inside | rfl | outside
  · rw [List.getElem?_append_left inside]
  · simp [none]
  · rw [List.getElem?_eq_none (by simp; omega), List.getElem?_eq_none (by omega)]

theorem queued_set {calls : List CallStage} {index : Nat} {old : CallStage}
    (found : calls[index]? = some old) (new : CallStage) (call : Nat) :
    queued (calls.set index new) call =
      if call = index then hasQueued new else queued calls call := by
  have bound := (List.getElem?_eq_some_iff.mp found).1
  unfold queued
  split_ifs with here
  · rw [here, List.getElem?_set_self bound]
    rfl
  · rw [List.getElem?_set_ne (Ne.symm here)]

theorem queued_of_found {calls : List CallStage} {call : Nat} {stage : CallStage}
    (found : calls[call]? = some stage) : queued calls call = hasQueued stage := by
  rw [queued, found]
  rfl

theorem queued_same {calls : List CallStage} {index : Nat} {old : CallStage}
    (found : calls[index]? = some old) (new : CallStage) (same : hasQueued new = hasQueued old)
    (call : Nat) :
    queued (calls.set index new) call = queued calls call := by
  rw [queued_set found]
  split_ifs with here
  · rw [here, queued_of_found found, same]
  · rfl

theorem step_advances {manager next : WatcherThreadManager} {event : Event}
    (taken : manager.step event = some next) : Advances manager.calls next.calls := by
  cases event with
  | start handle deadline =>
    cases taken
    exact advances_append _ _
  | stop watcherId =>
    obtain ⟨-, ⟨-, rfl⟩ | ⟨-, rfl⟩⟩ := stop_cases taken
    · exact advances_append _ _
    · exact advances_append _ _
  | add call =>
    obtain ⟨old, request, new, found, adds, -, rfl⟩ := add_cases taken
    refine advances_set found adds.watch ?_
    rw [adds.idle.1]
    nofun
  | post call =>
    obtain ⟨old, new, found, moves, -, -, -, rfl⟩ := post_cases taken
    exact advances_set found moves.watch moves.queued.trans
  | wake call =>
    obtain ⟨old, new, found, moves, -, -, rfl⟩ := wake_cases taken
    exact advances_set found moves.watch moves.queued.trans
  | swap =>
    obtain ⟨task, tasks, -, -, rfl⟩ := swap_cases taken
    exact advances_refl _
  | process =>
    obtain ⟨request, rest, -, handled⟩ := process_cases taken
    obtain ⟨backend, signals, rfl⟩ := handleRequest_frame handled
    exact advances_refl _
  | work result now =>
    obtain ⟨backend, -, rfl⟩ := work_cases taken
    exact advances_refl _

theorem add_once {manager : WatcherThreadManager} {index : Nat} {old new : CallStage}
    {request : Request} (found : manager.calls[index]? = some old)
    (adds : Adds index old request new) (call : Nat) :
    (queued (manager.calls.set index new) call).toNat + stopCount manager.requests call =
      (queued manager.calls call).toNat + stopCount (manager.requests ++ [request]) call := by
  rw [stopCount_append, adds.stops, queued_set found]
  by_cases here : call = index
  · rw [here, queued_of_found found, adds.idle.1, if_pos rfl, beq_self_eq_true, Bool.and_true,
      Bool.toNat_false]
    cases hasQueued new <;> simp [Nat.add_comm]
  · rw [if_neg here, beq_eq_false_iff_ne.mpr (Ne.symm here), Bool.and_false]
    rfl

theorem step_once {manager next : WatcherThreadManager} {event : Event}
    (accounted : Accounted manager) (taken : manager.step event = some next) (call : Nat) :
    stopCount next.requests call + stopCount next.batch call + next.signals.count call =
      (queued next.calls call).toNat := by
  have before := accounted.once call
  cases event with
  | start handle deadline =>
    cases taken
    rwa [queued_append _ rfl]
  | stop watcherId =>
    obtain ⟨-, ⟨any, rfl⟩ | ⟨-, rfl⟩⟩ := stop_cases taken
    · obtain ⟨erased, isErased, counted⟩ := countP_eraseP any
      have counts := counted (isStop call)
      have other : isStop call erased = false := by
        cases erased with
        | start data => rfl
        | stop watcherId other => cases isErased
      rw [other] at counts
      simp only [Bool.false_eq_true, if_false, Nat.add_zero] at counts
      rw [queued_append _ rfl, stopCount, counts]
      exact before
    · rwa [queued_append _ rfl]
  | add index =>
    obtain ⟨old, request, new, found, adds, -, rfl⟩ := add_cases taken
    have counts := add_once found adds call
    simp only
    omega
  | post index =>
    obtain ⟨old, new, found, moves, -, -, -, rfl⟩ := post_cases taken
    rwa [queued_same found new moves.queued]
  | wake index =>
    obtain ⟨old, new, found, moves, -, -, rfl⟩ := wake_cases taken
    rwa [queued_same found new moves.queued]
  | swap =>
    obtain ⟨task, tasks, batch, -, rfl⟩ := swap_cases taken
    simp only [batch, stopCount, List.countP_nil] at before ⊢
    omega
  | process =>
    obtain ⟨request, rest, batch, handled⟩ := process_cases taken
    cases request with
    | start data =>
      obtain ⟨backend, -, rfl⟩ := Option.map_eq_some_iff.mp handled
      simp only [batch, stopCount, List.countP_cons, isStop, Bool.false_eq_true, if_false,
        Nat.add_zero] at before
      exact before
    | stop watcherId other =>
      obtain ⟨backend, -, rfl⟩ := Option.map_eq_some_iff.mp handled
      simp only [batch, stopCount, List.countP_cons] at before
      simp only [stopCount, List.count_append, List.count_singleton]
      by_cases here : other = call
      · simp only [here, isStop, beq_self_eq_true, if_true] at before ⊢
        omega
      · simp only [isStop, beq_eq_false_iff_ne.mpr here, Bool.false_eq_true, if_false] at before ⊢
        omega
  | work result now =>
    obtain ⟨backend, -, rfl⟩ := work_cases taken
    exact before

theorem step_stops {manager next : WatcherThreadManager} {event : Event}
    (taken : manager.step event = some next) {watcherId call : Nat}
    (member : .stop watcherId call ∈ next.requests ++ next.batch) :
    .stop watcherId call ∈ manager.requests ++ manager.batch ∨
      ∃ stage, next.calls[call]? = some stage ∧ watch stage = watcherId ∧ hasQueued stage := by
  cases event with
  | start handle deadline =>
    cases taken
    exact .inl member
  | stop other =>
    obtain ⟨-, ⟨-, rfl⟩ | ⟨-, rfl⟩⟩ := stop_cases taken
    · simp only [List.mem_append] at member ⊢
      exact .inl (member.imp_left List.mem_of_mem_eraseP)
    · exact .inl member
  | add index =>
    obtain ⟨old, request, new, found, adds, -, rfl⟩ := add_cases taken
    have bound := (List.getElem?_eq_some_iff.mp found).1
    simp only [List.mem_append, List.mem_singleton] at member ⊢
    rcases member with (queue | rfl) | batch
    · exact .inl (.inl queue)
    · right
      cases adds with
      | stopPosting | waiting => exact ⟨_, List.getElem?_set_self bound, rfl, rfl⟩
    · exact .inl (.inr batch)
  | post index =>
    obtain ⟨old, new, -, -, -, -, -, rfl⟩ := post_cases taken
    exact .inl member
  | wake index =>
    obtain ⟨old, new, -, -, -, -, rfl⟩ := wake_cases taken
    exact .inl member
  | swap =>
    obtain ⟨task, tasks, batch, -, rfl⟩ := swap_cases taken
    left
    simpa [batch] using member
  | process =>
    obtain ⟨request, rest, batch, handled⟩ := process_cases taken
    obtain ⟨backend, signals, rfl⟩ := handleRequest_frame handled
    left
    simp only [List.mem_append, batch, List.mem_cons] at member ⊢
    exact member.imp_right .inr
  | work result now =>
    obtain ⟨backend, -, rfl⟩ := work_cases taken
    exact .inl member

theorem step_accounted (manager : WatcherThreadManager) (event : Event)
    (next : WatcherThreadManager) (accounted : Accounted manager)
    (taken : manager.step event = some next) : Accounted next := by
  refine ⟨step_once accounted taken, ?_⟩
  intro watcherId call member
  rcases step_stops taken member with before | new
  · obtain ⟨stage, found, same, queued⟩ := accounted.linked watcherId call before
    obtain ⟨later, there, watched, kept⟩ := step_advances taken call stage found
    exact ⟨later, there, watched.trans same, kept queued⟩
  · exact new

theorem ordered_of_none {requests : List Request}
    (none : ∀ watcherId call, .stop watcherId call ∈ requests →
      startCount requests watcherId = 0) : Ordered requests := by
  have later : ∀ {suffix : List Request}, suffix <:+ requests → Ordered suffix := by
    intro suffix
    induction suffix with
    | nil => exact fun _ => trivial
    | cons request rest ih =>
      intro isSuffix
      have tail := (List.suffix_cons request rest).trans isSuffix
      cases request with
      | start data => exact ih tail
      | stop watcherId call =>
        refine ⟨?_, ih tail⟩
        have zero := none watcherId call (isSuffix.subset List.mem_cons_self)
        exact Nat.le_zero.mp (zero ▸ tail.sublist.countP_le)
  exact later List.suffix_rfl

structure Protocol (manager : WatcherThreadManager) : Prop where
  placed : Placed manager
  known : Known manager
  accounted : Accounted manager
  ordered : Ordered manager.batch
  signalled : ∀ call ∈ manager.signals, ∃ stage, manager.calls[call]? = some stage ∧
    hasQueued stage ∧ manager.Dead (watch stage)

theorem protocol_start : Protocol {} where
  placed := placed_start
  known := nofun
  accounted := accounted_start
  ordered := trivial
  signalled := nofun

theorem hasScanned_of_hasQueued {stage : CallStage} (queued : hasQueued stage) :
    hasScanned stage := by
  cases stage with
  | starting | startPosting | started | cancelled | stopping => cases queued
  | stopPosting | waiting | stopped => rfl

theorem Protocol.stop_free {manager : WatcherThreadManager} (protocol : Protocol manager)
    {watcherId call : Nat} (member : .stop watcherId call ∈ manager.requests ++ manager.batch) :
    startingCount manager.calls watcherId = 0 ∧ startCount manager.requests watcherId = 0 := by
  obtain ⟨stage, found, rfl, queued⟩ := protocol.accounted.linked watcherId call member
  have fits := protocol.known stage (List.mem_of_getElem? found)
  have scanned := hasScanned_of_hasQueued queued
  exact ⟨fits.added (not_isStarting scanned _), fits.scanned scanned⟩

theorem step_frame {manager next : WatcherThreadManager} {event : Event}
    (taken : manager.step event = some next) (swap : event ≠ .swap) (process : event ≠ .process) :
    next.batch = manager.batch ∧ next.signals = manager.signals := by
  cases event with
  | swap => exact absurd rfl swap
  | process => exact absurd rfl process
  | start handle deadline =>
    cases taken
    exact ⟨rfl, rfl⟩
  | stop watcherId =>
    obtain ⟨-, ⟨-, rfl⟩ | ⟨-, rfl⟩⟩ := stop_cases taken <;> exact ⟨rfl, rfl⟩
  | add call =>
    obtain ⟨old, request, new, -, -, -, rfl⟩ := add_cases taken
    exact ⟨rfl, rfl⟩
  | post call =>
    obtain ⟨old, new, -, -, -, -, -, rfl⟩ := post_cases taken
    exact ⟨rfl, rfl⟩
  | wake call =>
    obtain ⟨old, new, -, -, -, -, rfl⟩ := wake_cases taken
    exact ⟨rfl, rfl⟩
  | work result now =>
    obtain ⟨backend, -, rfl⟩ := work_cases taken
    exact ⟨rfl, rfl⟩

theorem step_ordered {manager next : WatcherThreadManager} {event : Event}
    (protocol : Protocol manager) (taken : manager.step event = some next) :
    Ordered next.batch := by
  by_cases swap : event = .swap
  · subst swap
    obtain ⟨task, tasks, -, -, rfl⟩ := swap_cases taken
    apply ordered_of_none
    intro watcherId call member
    exact (protocol.stop_free (List.mem_append_left _ member)).2
  by_cases process : event = .process
  · subst process
    obtain ⟨request, rest, batch, handled⟩ := process_cases taken
    obtain ⟨backend, signals, rfl⟩ := handleRequest_frame handled
    have ordered := protocol.ordered
    rw [batch] at ordered
    cases request with
    | start data => exact ordered
    | stop watcherId call => exact ordered.2
  · rw [(step_frame taken swap process).1]
    exact protocol.ordered

theorem stop_dead {manager next : WatcherThreadManager} {watcherId call : Nat}
    {rest : List Request} (protocol : Protocol manager)
    (batch : manager.batch = .stop watcherId call :: rest)
    (handled : { manager with batch := rest }.handleRequest (.stop watcherId call) = some next) :
    next.signals = manager.signals ++ [call] ∧ next.calls = manager.calls ∧
      next.Dead watcherId := by
  have member : .stop watcherId call ∈ manager.requests ++ manager.batch := by simp [batch]
  obtain ⟨starting, front⟩ := protocol.stop_free member
  have ordered := protocol.ordered
  rw [batch] at ordered
  obtain ⟨backend, reacted, -, -, none⟩ :=
    stopWatching_react protocol.placed.matched watcherId
  have single := protocol.placed.single watcherId
  have gone := none (by unfold places at single; omega)
  simp only [handleRequest, reacted, Option.map_some, Option.some.injEq] at handled
  subst handled
  refine ⟨rfl, rfl, ?_⟩
  simp only [Dead, places, starting, front, ordered.1, gone]

theorem step_signals {manager next : WatcherThreadManager} {event : Event}
    (protocol : Protocol manager) (taken : manager.step event = some next) {call : Nat}
    (member : call ∈ next.signals) : call ∈ manager.signals ∨
      ∃ stage, next.calls[call]? = some stage ∧ hasQueued stage ∧ next.Dead (watch stage) := by
  by_cases swap : event = .swap
  · subst swap
    obtain ⟨task, tasks, -, -, rfl⟩ := swap_cases taken
    exact .inl member
  by_cases process : event = .process
  · subst process
    obtain ⟨request, rest, batch, handled⟩ := process_cases taken
    cases request with
    | start data =>
      obtain ⟨backend, -, rfl⟩ := Option.map_eq_some_iff.mp handled
      exact .inl member
    | stop watcherId other =>
      obtain ⟨signals, calls, dead⟩ := stop_dead protocol batch handled
      rw [signals, List.mem_append, List.mem_singleton] at member
      rcases member with before | rfl
      · exact .inl before
      · obtain ⟨stage, found, rfl, queued⟩ :=
          protocol.accounted.linked watcherId call (by simp [batch])
        exact .inr ⟨stage, by rw [calls, found], queued, dead⟩
  · rw [(step_frame taken swap process).2] at member
    exact .inl member

theorem step_signalled {manager next : WatcherThreadManager} {event : Event}
    (protocol : Protocol manager) (taken : manager.step event = some next) {call : Nat}
    (member : call ∈ next.signals) : ∃ stage, next.calls[call]? = some stage ∧
      hasQueued stage ∧ next.Dead (watch stage) := by
  rcases step_signals protocol taken member with before | new
  · obtain ⟨stage, found, queued, dead⟩ := protocol.signalled call before
    obtain ⟨later, there, same, kept⟩ := step_advances taken call stage found
    have issued := (protocol.known stage (List.mem_of_getElem? found)).issued
    obtain ⟨-, -, shrinks⟩ := step_shrinks protocol.placed.matched taken
    have after := (shrinks (watch stage) (.inl (Nat.ne_of_lt issued))).places
    refine ⟨later, there, kept queued, ?_⟩
    rw [same]
    unfold Dead at dead ⊢
    omega
  · exact new

theorem wake_fits {manager next : WatcherThreadManager} {call : Nat} (protocol : Protocol manager)
    (taken : manager.step (.wake call) = some next) :
    ∃ stage, next.calls = manager.calls.set call stage ∧ Fits next stage := by
  have kept : ∀ stage ∈ manager.calls, Fits next stage :=
    fun _ before => protocol.known.old protocol.placed taken before
  have signalled : call ∈ next.signals → ∃ stage, next.calls[call]? = some stage ∧
      hasQueued stage ∧ next.Dead (watch stage) := step_signalled protocol taken
  obtain ⟨old, new, found, moves, -, isSignalled, rfl⟩ := wake_cases taken
  have fits := kept old (List.mem_of_getElem? found)
  refine ⟨new, rfl, fits.advance moves.watch (moves.waited _) ?_ fun _ => ?_⟩
  · rw [moves.scanned]
    exact id
  · obtain ⟨stage, there, -, dead⟩ := signalled isSignalled
    rw [List.getElem?_set_self (List.getElem?_eq_some_iff.mp found).1] at there
    cases there
    rwa [moves.watch] at dead

theorem step_known {manager next : WatcherThreadManager} {event : Event}
    (protocol : Protocol manager) (taken : manager.step event = some next) : Known next := by
  have kept : ∀ stage ∈ manager.calls, Fits next stage :=
    fun _ before => protocol.known.old protocol.placed taken before
  have appended : ∀ new, next.calls = manager.calls ++ [new] → Fits next new → Known next := by
    intro new calls fits stage member
    rw [calls, List.mem_append, List.mem_singleton] at member
    rcases member with before | rfl
    · exact kept stage before
    · exact fits
  have replaced : ∀ call new, next.calls = manager.calls.set call new → Fits next new →
      Known next := by
    intro call new calls fits stage member
    rw [calls] at member
    rcases List.mem_or_eq_of_mem_set member with before | rfl
    · exact kept stage before
    · exact fits
  cases event with
  | start handle deadline =>
    cases taken
    refine appended _ rfl ⟨Nat.lt_succ_self _, ?_, nofun, nofun⟩
    intro free
    simp [isStarting, watch] at free
  | stop watcherId =>
    obtain ⟨stage, calls, fits⟩ := stop_fits protocol.placed protocol.known taken
    exact appended stage calls fits
  | add call =>
    obtain ⟨stage, calls, fits⟩ := add_fits protocol.placed protocol.known taken
    exact replaced call stage calls fits
  | post call =>
    obtain ⟨stage, calls, fits⟩ := post_fits protocol.placed protocol.known taken
    exact replaced call stage calls fits
  | wake call =>
    obtain ⟨stage, calls, fits⟩ := wake_fits protocol taken
    exact replaced call stage calls fits
  | swap =>
    obtain ⟨task, tasks, -, -, rfl⟩ := swap_cases taken
    exact kept
  | process =>
    obtain ⟨request, rest, -, handled⟩ := process_cases taken
    obtain ⟨backend, signals, rfl⟩ := handleRequest_frame handled
    exact kept
  | work result now =>
    obtain ⟨backend, -, rfl⟩ := work_cases taken
    exact kept

theorem step_protocol (manager : WatcherThreadManager) (event : Event)
    (next : WatcherThreadManager) (protocol : Protocol manager)
    (taken : manager.step event = some next) : Protocol next where
  placed := step_placed manager event next protocol.placed taken
  known := step_known protocol taken
  accounted := step_accounted manager event next protocol.accounted taken
  ordered := step_ordered protocol taken
  signalled _ member := step_signalled protocol taken member

end MojoMedia.WatcherThreadManager
