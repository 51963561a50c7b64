import MojoMedia.MessagePump.HandleWatcherProtocol

set_option autoImplicit false

namespace MojoMedia.WatcherThreadManager

open Runs

-- The call is past the lock and has not posted its task yet.
def posting (calls : List CallStage) (call : Nat) : Bool := (calls[call]?.map isPosting).getD false

theorem posting_append {calls : List CallStage} {call : Nat} (new : CallStage)
    (before : posting calls call = true) : posting (calls ++ [new]) call = true := by
  have bound : call < calls.length := by
    by_contra outside
    rw [posting, List.getElem?_eq_none (by omega)] at before
    cases before
  rw [posting, List.getElem?_append_left bound]
  exact before

theorem posting_set {calls : List CallStage} {index call : Nat} {old : CallStage}
    (new : CallStage) (found : calls[index]? = some old) (idle : isPosting old = false)
    (before : posting calls call = true) : posting (calls.set index new) call = true := by
  have other : index ≠ call := by
    rintro rfl
    rw [posting, found] at before
    cases idle.symm.trans before
  rw [posting, List.getElem?_set_ne other]
  exact before

def Woken (manager : WatcherThreadManager) : Prop :=
  manager.requests ≠ [] → ∃ call, manager.opener = some call ∧
    (call ∈ manager.tasks ∨ posting manager.calls call = true)

theorem add_woken {manager : WatcherThreadManager} {call : Nat} {old new : CallStage}
    {request : Request} (woken : Woken manager) (found : manager.calls[call]? = some old)
    (adds : Adds call old request new) (posts : isPosting new = manager.requests.isEmpty) :
    Woken { manager with
      requests := manager.requests ++ [request]
      calls := manager.calls.set call new
      opener := if manager.requests.isEmpty then some call else manager.opener } := by
  intro _
  cases requests : manager.requests with
  | nil =>
    refine ⟨call, by simp, .inr ?_⟩
    have bound := (List.getElem?_eq_some_iff.mp found).1
    simp [posting, bound, posts, requests]
  | cons first rest =>
    obtain ⟨opener, same, posted⟩ := woken (by simp [requests])
    refine ⟨opener, by simp [same], ?_⟩
    exact posted.imp_right (posting_set _ found adds.idle.2)

theorem post_woken {manager : WatcherThreadManager} {call : Nat} (new : CallStage)
    (woken : Woken manager) :
    Woken { manager with
      tasks := manager.tasks ++ [call]
      calls := manager.calls.set call new } := by
  intro some
  obtain ⟨opener, same, posted⟩ := woken some
  refine ⟨opener, same, ?_⟩
  by_cases here : call = opener
  · exact .inl (by simp [here])
  · rcases posted with task | pending
    · exact .inl (List.mem_append_left _ task)
    · right
      rw [posting, List.getElem?_set_ne here]
      exact pending

theorem step_woken (manager : WatcherThreadManager) (event : Event) (next : WatcherThreadManager)
    (woken : Woken manager) (taken : manager.step event = some next) : Woken next := by
  cases event with
  | start handle deadline =>
    cases taken
    intro some
    obtain ⟨opener, same, posted⟩ := woken some
    exact ⟨opener, same, posted.imp_right (posting_append _)⟩
  | stop watcherId =>
    obtain ⟨-, ⟨-, rfl⟩ | ⟨-, rfl⟩⟩ := stop_cases taken
    · intro some
      have before : manager.requests ≠ [] := by
        intro none
        rw [none] at some
        exact some rfl
      obtain ⟨opener, same, posted⟩ := woken before
      exact ⟨opener, same, posted.imp_right (posting_append _)⟩
    · intro some
      obtain ⟨opener, same, posted⟩ := woken some
      exact ⟨opener, same, posted.imp_right (posting_append _)⟩
  | add call =>
    obtain ⟨old, request, new, found, adds, posts, rfl⟩ := add_cases taken
    exact add_woken woken found adds posts
  | post call =>
    obtain ⟨old, new, -, -, -, -, -, rfl⟩ := post_cases taken
    exact post_woken new woken
  | wake call =>
    obtain ⟨old, new, found, -, idle, -, rfl⟩ := wake_cases taken
    intro some
    obtain ⟨opener, same, posted⟩ := woken some
    exact ⟨opener, same, posted.imp_right (posting_set new found idle)⟩
  | swap =>
    obtain ⟨task, tasks, -, -, rfl⟩ := swap_cases taken
    exact fun some => absurd rfl some
  | process =>
    obtain ⟨request, rest, -, handled⟩ := process_cases taken
    obtain ⟨backend, signals, rfl⟩ := handleRequest_frame handled
    exact woken
  | work result now =>
    obtain ⟨backend, -, rfl⟩ := work_cases taken
    exact woken

def isInternal : Event → Bool
  | .post _ | .swap | .process => true
  | .start _ _ | .stop _ | .add _ | .wake _ | .work _ _ => false

def left (manager : WatcherThreadManager) : Nat :=
  2 * manager.calls.countP isPosting + manager.tasks.length + manager.requests.length +
    manager.batch.length

theorem internal_left {manager next : WatcherThreadManager} {event : Event}
    (internal : isInternal event) (taken : manager.step event = some next) :
    next.left < manager.left := by
  cases event with
  | start | stop | add | wake | work => cases internal
  | post call =>
    obtain ⟨old, new, found, -, -, posting, posted, rfl⟩ := post_cases taken
    have counted := countP_set found new isPosting
    simp only [posting, posted, Bool.false_eq_true, if_true, if_false] at counted
    simp only [left, List.length_append, List.length_singleton]
    omega
  | swap =>
    obtain ⟨task, tasks, batch, posted, rfl⟩ := swap_cases taken
    simp only [left, batch, posted, List.length_cons, List.length_nil]
    omega
  | process =>
    obtain ⟨request, rest, batch, handled⟩ := process_cases taken
    obtain ⟨backend, signals, rfl⟩ := handleRequest_frame handled
    simp only [left, batch, List.length_cons]
    omega

theorem internal_run {manager final : WatcherThreadManager} {events : List Event}
    (internal : ∀ event ∈ events, isInternal event)
    (reached : run step manager events = some final) :
    final.left + events.length ≤ manager.left := by
  induction events generalizing manager with
  | nil =>
    cases reached
    exact Nat.le_refl _
  | cons event rest ih =>
    obtain ⟨next, taken, later⟩ := (run_cons step manager final event rest).mp reached
    have smaller := internal_left (internal event (by simp)) taken
    have rest := ih (fun event member => internal event (by simp [member])) later
    simp only [List.length_cons]
    omega

theorem process_enabled {manager : WatcherThreadManager} (matched : Matched manager.backend)
    (some : manager.batch ≠ []) : ∃ next, manager.step .process = Option.some next := by
  cases batch : manager.batch with
  | nil => exact absurd batch some
  | cons request rest =>
    cases request with
    | start data =>
      obtain ⟨backend, reacted, -⟩ := startWatching_react matched data
      exact ⟨_, by simp only [step, batch, handleRequest, reacted]; rfl⟩
    | stop watcherId call =>
      obtain ⟨backend, reacted, -⟩ := stopWatching_react matched watcherId
      exact ⟨_, by simp only [step, batch, handleRequest, reacted]; rfl⟩

theorem post_enabled {manager : WatcherThreadManager} {call : Nat}
    (isPosting : posting manager.calls call = true) : manager.step (.post call) ≠ none := by
  unfold posting at isPosting
  cases found : manager.calls[call]? with
  | none => rw [found] at isPosting; cases isPosting
  | some stage =>
    rw [found] at isPosting
    cases stage with
    | startPosting watcherId => simp [step, found]
    | stopPosting watcherId => simp [step, found]
    | starting | started | cancelled | stopping | waiting | stopped => cases isPosting

theorem stuck_empty {manager : WatcherThreadManager} (protocol : Protocol manager)
    (woken : Woken manager)
    (stuck : ∀ event, isInternal event → manager.step event = none) :
    manager.requests = [] ∧ manager.batch = [] := by
  have batch : manager.batch = [] := by
    by_contra some
    obtain ⟨next, taken⟩ := process_enabled protocol.placed.matched some
    cases (stuck .process rfl).symm.trans taken
  refine ⟨?_, batch⟩
  by_contra some
  obtain ⟨call, -, task | pending⟩ := woken some
  · have swap := stuck .swap rfl
    cases tasks : manager.tasks with
    | nil => rw [tasks] at task; cases task
    | cons first rest => simp [step, batch, tasks] at swap
  · exact post_enabled pending (stuck (.post call) rfl)

theorem queued_run {manager final : WatcherThreadManager} {events : List Event} {call : Nat}
    (isQueued : queued manager.calls call = true)
    (reached : run step manager events = some final) : queued final.calls call = true := by
  refine invariant_of_run step (fun manager => queued manager.calls call = true) ?_ manager final
    events isQueued reached
  intro before event after isQueued taken
  unfold queued at isQueued
  cases found : before.calls[call]? with
  | none => rw [found] at isQueued; cases isQueued
  | some stage =>
    rw [found] at isQueued
    obtain ⟨later, there, -, kept⟩ := step_advances taken call stage found
    rw [queued_of_found there]
    exact kept isQueued

def StopReturned (manager : WatcherThreadManager) (watcherId : Nat) : Prop :=
  .cancelled watcherId ∈ manager.calls ∨ .stopped watcherId ∈ manager.calls

instance (manager : WatcherThreadManager) (watcherId : Nat) :
    Decidable (manager.StopReturned watcherId) :=
  inferInstanceAs (Decidable (_ ∨ _))

theorem Protocol.returned_dead {manager : WatcherThreadManager} (protocol : Protocol manager)
    {watcherId : Nat} (returned : manager.StopReturned watcherId) :
    watcherId < manager.nextWatcherId ∧ manager.Dead watcherId := by
  rcases returned with cancelled | stopped
  · have fits := protocol.known _ cancelled
    exact ⟨fits.issued, fits.dead rfl⟩
  · have fits := protocol.known _ stopped
    exact ⟨fits.issued, fits.dead rfl⟩

theorem posted_run {manager final : WatcherThreadManager} {events : List Event} {watcherId : Nat}
    (protocol : Protocol manager) (returned : manager.StopReturned watcherId)
    (reached : run step manager events = some final) :
    final.backend.state.postedCount watcherId = manager.backend.state.postedCount watcherId := by
  have start := protocol.returned_dead returned
  refine (invariant_of_run step (fun later => Protocol later ∧
    watcherId < later.nextWatcherId ∧ later.Dead watcherId ∧ later.backend.state.postedCount
      watcherId = manager.backend.state.postedCount watcherId) ?_ manager final events
        ⟨protocol, start.1, start.2, rfl⟩ reached).2.2.2
  rintro before event after ⟨protocol, issued, dead, same⟩ taken
  obtain ⟨-, growth, shrinks⟩ := step_shrinks protocol.placed.matched taken
  have shrunk := shrinks watcherId (.inl (Nat.ne_of_lt issued))
  have places := shrunk.places
  have posted := shrunk.posted
  have total := shrunk.total
  unfold Dead at dead ⊢
  refine ⟨step_protocol before event after protocol taken, ?_, by omega, by omega⟩
  rcases growth with next | ⟨handle, deadline, rfl⟩
  · rw [next]
    exact issued
  · cases taken
    exact Nat.lt_succ_of_lt issued

theorem run_protocol {manager : WatcherThreadManager} {events : List Event}
    (reached : run step {} events = some manager) : Protocol manager ∧ Woken manager := by
  constructor
  · exact invariant_of_run step Protocol step_protocol {} manager events protocol_start reached
  · exact invariant_of_run step Woken step_woken {} manager events (fun some => absurd rfl some)
      reached

-- Requests in the queue have a task that is posted, or about to be posted by the call that found
-- the queue empty. The event of a stop is signalled once, in every order of the steps that are
-- left, of which there are finitely many. A callback is posted once at most, and not after
-- `StopWatching` has returned. The backend has the handles that it has registered.
theorem watcher_protocol (events : List Event) (manager : WatcherThreadManager)
    (reached : run step {} events = some manager) :
    (manager.requests ≠ [] → ∃ call, manager.opener = some call ∧
      (call ∈ manager.tasks ∨ posting manager.calls call = true)) ∧
    (∀ call, queued manager.calls call = true → manager.signals.count call ≤ 1 ∧
      ∀ later final, (∀ event ∈ later, isInternal event) → run step manager later = some final →
        later.length ≤ manager.left ∧
        ((∀ event, isInternal event → final.step event = none) →
          final.signals.count call = 1)) ∧
    (∀ watcherId, manager.backend.state.postedCount watcherId ≤ 1 ∧
      (manager.StopReturned watcherId → ∀ later final, run step manager later = some final →
        final.backend.state.postedCount watcherId =
          manager.backend.state.postedCount watcherId)) ∧
    ∀ handle, (manager.backend.state.handleToData.get? handle).isSome =
      (manager.backend.pump.handlers.get? handle).isSome := by
  obtain ⟨protocol, woken⟩ := run_protocol reached
  refine ⟨woken, ?_, ?_, protocol.placed.matched.keys⟩
  · intro call isQueued
    have once := protocol.accounted.once call
    rw [isQueued, Bool.toNat_true] at once
    refine ⟨by omega, ?_⟩
    intro later final internal continued
    refine ⟨by have bound := internal_run internal continued; omega, ?_⟩
    intro stuck
    have all : run step {} (events ++ later) = some final := by
      rw [run_append, reached]
      exact continued
    obtain ⟨finalProtocol, finalWoken⟩ := run_protocol all
    obtain ⟨requests, batch⟩ := stuck_empty finalProtocol finalWoken stuck
    have finalOnce := finalProtocol.accounted.once call
    rw [queued_run isQueued continued, requests, batch] at finalOnce
    simpa [stopCount] using finalOnce
  · intro watcherId
    have single := protocol.placed.single watcherId
    exact ⟨by omega, fun returned later final continued =>
      posted_run protocol returned continued⟩

def replaced : List Event :=
  [.start 7 0, .add 0, .post 0, .swap, .process, .start 7 0, .add 1, .stop 0, .add 2, .post 1,
    .swap, .process, .process, .wake 2, .stop 1, .add 3]

theorem watcher_protocol_replaced :
    ∃ manager, run step {} replaced = some manager ∧ manager.requests = [.stop 1 3] ∧
      (∃ call, manager.opener = some call ∧
        (call ∈ manager.tasks ∨ posting manager.calls call = true)) ∧
      manager.signals.count 2 ≤ 1 ∧ manager.StopReturned 0 ∧
      manager.backend.state.postedCount 0 ≤ 1 :=
  ⟨_, rfl, by decide, (watcher_protocol replaced _ rfl).1 (by decide),
    ((watcher_protocol replaced _ rfl).2.1 2 (by decide)).1, by decide,
    ((watcher_protocol replaced _ rfl).2.2.1 0).1⟩

end MojoMedia.WatcherThreadManager
