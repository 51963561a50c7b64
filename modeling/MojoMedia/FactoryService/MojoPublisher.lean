import MojoMedia.Shared.MachineInt
import MojoMedia.Shared.Pipes
import MojoMedia.Shared.Runs
import Mathlib.Algebra.GroupWithZero.Nat
import Mathlib.Algebra.Order.BigOperators.Group.List
import Mathlib.Algebra.Order.Group.Nat

set_option autoImplicit false

-- Every client asks again with the version that it was just sent. Requests and answers are
-- messages in flight.
namespace MojoMedia

open MachineInt

structure MojoPublisher (Callback : Type) where
  version : Nat
  pendingCallbacks : List Callback
deriving DecidableEq

namespace MojoPublisher

variable {Callback : Type}

def initial : MojoPublisher Callback := { version := 1, pendingCallbacks := [] }

def get (publisher : MojoPublisher Callback) (versionLastSeen : Nat) (callback : Callback) :
    MojoPublisher Callback × List (Callback × Nat) :=
  if versionLastSeen < publisher.version then
    (publisher, [(callback, publisher.version)])
  else
    ({ publisher with pendingCallbacks := publisher.pendingCallbacks ++ [callback] }, [])

def sendUpdates (publisher : MojoPublisher Callback) :
    MojoPublisher Callback × List (Callback × Nat) :=
  let version := u64 (publisher.version + 1)
  ({ version, pendingCallbacks := [] },
    publisher.pendingCallbacks.map fun callback => (callback, version))

theorem get_newer (publisher : MojoPublisher Callback) {versionLastSeen : Nat}
    (callback : Callback) (newer : versionLastSeen < publisher.version) :
    publisher.get versionLastSeen callback = (publisher, [(callback, publisher.version)]) := by
  simp [get, newer]

theorem get_parks (publisher : MojoPublisher Callback) {versionLastSeen : Nat}
    (callback : Callback) (seen : publisher.version ≤ versionLastSeen) :
    publisher.get versionLastSeen callback =
      ({ publisher with pendingCallbacks := publisher.pendingCallbacks ++ [callback] }, []) := by
  simp [get, Nat.not_lt.mpr seen]

end MojoPublisher

structure KnownStatus (Status : Type) where
  version : Nat
  status : Option Status
deriving DecidableEq

def KnownStatus.initial {Status : Type} : KnownStatus Status := { version := 0, status := none }

structure PublisherSystem (Client Status : Type) where
  publisher : MojoPublisher Client
  status : Status
  -- The status has changed and no update has been sent since.
  unsent : Bool
  connected : List Client
  known : Client → KnownStatus Status
  requests : Client → List Nat
  answers : Client → List (Nat × Status)

inductive PublisherEvent (Client Status : Type) where
  | connect (client : Client)
  | change (status : Status)
  | sendUpdates
  | request (client : Client)
  | answer (client : Client)

namespace PublisherSystem

open Pipes Runs

variable {Client Status : Type} [DecidableEq Client]

def initial (status : Status) : PublisherSystem Client Status :=
  { publisher := .initial
    status
    unsent := false
    connected := []
    known := fun _ => .initial
    requests := fun _ => []
    answers := fun _ => [] }

def runCallbacks (system : PublisherSystem Client Status)
    (made : MojoPublisher Client × List (Client × Nat)) : PublisherSystem Client Status :=
  { system with
    publisher := made.1
    answers := sendAll system.answers
      (made.2.map fun callback => (callback.1, (callback.2, system.status))) }

def step (system : PublisherSystem Client Status) :
    PublisherEvent Client Status → Option (PublisherSystem Client Status)
  | .connect client =>
    if client ∈ system.connected then none else
      some { system with
        connected := client :: system.connected
        requests := send system.requests client (system.known client).version }
  | .change status => some { system with status, unsent := true }
  | .sendUpdates =>
    some { system.runCallbacks system.publisher.sendUpdates with unsent := false }
  | .request client =>
    (receive system.requests client).map fun (versionLastSeen, requests) =>
      { system with requests }.runCallbacks (system.publisher.get versionLastSeen client)
  -- `HandleSinkStatusUpdates`: keep the status and ask again.
  | .answer client =>
    (receive system.answers client).map fun ((version, status), answers) =>
      { system with
        answers
        known := Function.update system.known client { version, status := some status }
        requests := send system.requests client version }

-- What a client holds, or is about to hold, is not newer than the publisher, and what is as
-- new is the status itself.
def Current (system : PublisherSystem Client Status) (held : KnownStatus Status) : Prop :=
  held.version ≤ system.publisher.version ∧
    (held.version = system.publisher.version → system.unsent = false →
      held.status = some system.status)

inductive Place (system : PublisherSystem Client Status) (client : Client) : Prop
  | idle (away : client ∉ system.connected) (fresh : system.known client = .initial)
    (unasked : system.requests client = [])
    (unparked : system.publisher.pendingCallbacks.count client = 0)
    (unanswered : system.answers client = [])
  | requested (joined : client ∈ system.connected)
    (asked : system.requests client = [(system.known client).version])
    (unparked : system.publisher.pendingCallbacks.count client = 0)
    (unanswered : system.answers client = [])
  | parked (joined : client ∈ system.connected)
    (unasked : system.requests client = [])
    (waits : system.publisher.pendingCallbacks.count client = 1)
    (unanswered : system.answers client = [])
    (seen : (system.known client).version = system.publisher.version)
  | answered (joined : client ∈ system.connected) (version : Nat) (status : Status)
    (unasked : system.requests client = [])
    (unparked : system.publisher.pendingCallbacks.count client = 0)
    (sent : system.answers client = [(version, status)])
    (newer : (system.known client).version < version)
    (current : system.Current { version, status := some status })

structure Invariant (system : PublisherSystem Client Status) : Prop where
  versioned : 1 ≤ system.publisher.version ∧ system.publisher.version < 2 ^ 64
  distinct : system.connected.Nodup
  known (client : Client) : system.Current (system.known client)
  place (client : Client) : system.Place client

theorem initial_invariant (status : Status) :
    (initial status : PublisherSystem Client Status).Invariant where
  versioned := by simp [initial, MojoPublisher.initial]
  distinct := List.nodup_nil
  known _ := by simp [Current, initial, KnownStatus.initial, MojoPublisher.initial]
  place _ := .idle (by simp [initial]) rfl rfl (by simp [initial, MojoPublisher.initial]) rfl

def NoWrap (system : PublisherSystem Client Status) : PublisherEvent Client Status → Prop
  | .sendUpdates => system.publisher.version + 1 < 2 ^ 64
  | _ => True

instance (system : PublisherSystem Client Status) (event : PublisherEvent Client Status) :
    Decidable (system.NoWrap event) := by
  cases event <;> unfold NoWrap <;> infer_instance

section Steps

variable {system next : PublisherSystem Client Status}

theorem Place.keep {client : Client} (place : system.Place client)
    (joined : client ∈ next.connected ↔ client ∈ system.connected)
    (known : next.known client = system.known client)
    (requests : next.requests client = system.requests client)
    (pending : next.publisher.pendingCallbacks.count client =
      system.publisher.pendingCallbacks.count client)
    (answers : next.answers client = system.answers client)
    (version : next.publisher.version = system.publisher.version)
    (current : ∀ held, system.Current held → next.Current held) : next.Place client := by
  rw [← not_iff_not] at joined
  cases place with
  | idle away fresh unasked unparked unanswered =>
    exact .idle (joined.mpr away) (known.trans fresh) (requests.trans unasked)
      (pending.trans unparked) (answers.trans unanswered)
  | requested here asked unparked unanswered =>
    refine .requested (not_iff_not.mp joined |>.mpr here) ?_ (pending.trans unparked)
      (answers.trans unanswered)
    rw [requests, known, asked]
  | parked here unasked waits unanswered seen =>
    refine .parked (not_iff_not.mp joined |>.mpr here) (requests.trans unasked)
      (pending.trans waits) (answers.trans unanswered) ?_
    rw [known, version, seen]
  | answered here number status unasked unparked sent newer held =>
    refine .answered (not_iff_not.mp joined |>.mpr here) number status (requests.trans unasked)
      (pending.trans unparked) (answers.trans sent) ?_ (current _ held)
    rwa [known]

theorem connect_invariant {client : Client} (invariant : system.Invariant)
    (taken : system.step (.connect client) = some next) : next.Invariant := by
  simp only [step] at taken
  split_ifs at taken with joined
  cases taken
  have place := invariant.place client
  refine ⟨invariant.versioned, List.nodup_cons.mpr ⟨joined, invariant.distinct⟩,
    fun other => invariant.known other, fun other => ?_⟩
  by_cases same : other = client
  · subst same
    cases place with
    | idle away fresh unasked unparked unanswered =>
      exact .requested (by simp) (by simp [unasked]) unparked unanswered
    | requested here | parked here | answered here => exact absurd here joined
  · exact (invariant.place other).keep (by simp [same]) rfl (by simp [same]) rfl rfl rfl
      fun _ current => current

theorem change_invariant {status : Status} (invariant : system.Invariant)
    (taken : system.step (.change status) = some next) : next.Invariant := by
  cases taken
  have current (held : KnownStatus Status) (old : system.Current held) :
      Current { system with status, unsent := true } held := ⟨old.1, by simp⟩
  exact ⟨invariant.versioned, invariant.distinct, fun client => current _ (invariant.known client),
    fun client => (invariant.place client).keep Iff.rfl rfl rfl rfl rfl rfl current⟩

theorem sendUpdates_invariant (invariant : system.Invariant)
    (noWrap : system.NoWrap .sendUpdates) (taken : system.step .sendUpdates = some next) :
    next.Invariant := by
  have version : u64 (system.publisher.version + 1) = system.publisher.version + 1 :=
    u64_of_lt _ noWrap
  simp only [step, runCallbacks, MojoPublisher.sendUpdates, version, List.map_map,
    Function.comp_def, Option.some.injEq] at taken
  subst taken
  -- What was held before is older than the publisher now.
  have older (held : KnownStatus Status) (old : system.Current held) :
      held.version < system.publisher.version + 1 := Nat.lt_succ_of_le old.1
  have sent (client : Client) : sendAll system.answers (system.publisher.pendingCallbacks.map
      fun callback => (callback, (system.publisher.version + 1, system.status))) client =
        system.answers client ++ List.replicate (system.publisher.pendingCallbacks.count client)
          (system.publisher.version + 1, system.status) := by
    rw [sendAll_apply, addressed_map]
  refine ⟨⟨by simp, noWrap⟩, invariant.distinct, fun client => ?_, fun client => ?_⟩
  · have less := older _ (invariant.known client)
    exact ⟨less.le, fun same => absurd same less.ne⟩
  · cases invariant.place client with
    | idle away fresh unasked unparked unanswered =>
      exact .idle away fresh unasked rfl (by simp [sent, unparked, unanswered])
    | requested here asked unparked unanswered =>
      exact .requested here asked rfl (by simp [sent, unparked, unanswered])
    | parked here unasked waits unanswered seen =>
      refine .answered here (system.publisher.version + 1) system.status unasked rfl
        (by simp [sent, waits, unanswered]) ?_ ?_
      · simp [seen]
      · simp [Current]
    | answered here number status unasked unparked answer newer held =>
      have less := older _ held
      exact .answered here number status unasked rfl (by simp [sent, unparked, answer]) newer
        ⟨less.le, fun same => absurd same less.ne⟩

theorem request_invariant {client : Client} (invariant : system.Invariant)
    (taken : system.step (.request client) = some next) : next.Invariant := by
  obtain ⟨⟨versionLastSeen, requests⟩, received, rfl⟩ := Option.map_eq_some_iff.mp taken
  obtain ⟨front, others⟩ := receive_cases received
  cases invariant.place client with
  | idle _ _ unasked | parked _ unasked | answered _ _ _ unasked => simp [unasked] at front
  | requested here asked unparked unanswered =>
    obtain ⟨rfl, empty⟩ : (system.known client).version = versionLastSeen ∧
        [] = requests client := by simpa [asked] using front
    rcases Nat.lt_or_ge (system.known client).version system.publisher.version with newer | seen
    next =>
      simp only [MojoPublisher.get_newer _ client newer, runCallbacks]
      refine ⟨invariant.versioned, invariant.distinct, invariant.known, fun other => ?_⟩
      by_cases same : other = client
      · subst same
        exact .answered here system.publisher.version system.status empty.symm unparked
          (by simp [sendAll, unanswered]) newer (by simp [Current])
      · exact (invariant.place other).keep Iff.rfl rfl (others other same) rfl
          (by simp [sendAll, same]) rfl fun _ current => current
    next =>
      simp only [MojoPublisher.get_parks _ client seen, runCallbacks]
      refine ⟨invariant.versioned, invariant.distinct, invariant.known, fun other => ?_⟩
      by_cases same : other = client
      · subst same
        exact .parked here empty.symm (by simp [unparked]) unanswered
          (Nat.le_antisymm (invariant.known other).1 seen)
      · exact (invariant.place other).keep Iff.rfl rfl (others other same)
          (by simp [List.count_append, Ne.symm same]) rfl rfl fun _ current => current

theorem answer_invariant {client : Client} (invariant : system.Invariant)
    (taken : system.step (.answer client) = some next) : next.Invariant := by
  obtain ⟨⟨⟨version, status⟩, answers⟩, received, rfl⟩ := Option.map_eq_some_iff.mp taken
  obtain ⟨front, others⟩ := receive_cases received
  cases invariant.place client with
  | idle _ _ _ _ unanswered | requested _ _ _ unanswered | parked _ _ _ unanswered =>
    simp [unanswered] at front
  | answered here number _ unasked unparked sent newer held =>
    obtain ⟨⟨rfl, rfl⟩, empty⟩ : (number = version ∧ _ = status) ∧ [] = answers client := by
      simpa [sent] using front
    refine ⟨invariant.versioned, invariant.distinct, fun other => ?_, fun other => ?_⟩
    · by_cases same : other = client
      · subst same
        simpa [Current] using held
      · simpa [Current, same] using invariant.known other
    · by_cases same : other = client
      · subst same
        exact .requested here (by simp [unasked]) unparked empty.symm
      · exact (invariant.place other).keep Iff.rfl (by simp [same]) (by simp [same]) rfl
          (others other same) rfl fun _ current => current

theorem step_invariant {event : PublisherEvent Client Status} (invariant : system.Invariant)
    (noWrap : system.NoWrap event) (taken : system.step event = some next) : next.Invariant := by
  cases event with
  | connect client => exact connect_invariant invariant taken
  | change status => exact change_invariant invariant taken
  | sendUpdates => exact sendUpdates_invariant invariant noWrap taken
  | request client => exact request_invariant invariant taken
  | answer client => exact answer_invariant invariant taken

end Steps

theorem run_invariant {status : Status} {final : PublisherSystem Client Status}
    {events : List (PublisherEvent Client Status)}
    (noWrap : Meets step NoWrap (initial status) events)
    (reached : run step (initial status) events = some final) : final.Invariant :=
  invariant_of_step step NoWrap Invariant (fun _ _ _ => step_invariant) _ _ _
    (initial_invariant status) noWrap reached

-- A connected client has one call, each answer is newer than what the client has seen, and a
-- client that waits for an update has everything that has been published.
theorem parked_client_is_current {status : Status} {final : PublisherSystem Client Status}
    {events : List (PublisherEvent Client Status)}
    (noWrap : Meets step NoWrap (initial status) events)
    (reached : run step (initial status) events = some final) {client : Client}
    (joined : client ∈ final.connected) :
    (final.requests client).length + final.publisher.pendingCallbacks.count client +
        (final.answers client).length = 1 ∧
      (∀ answer ∈ final.answers client, (final.known client).version < answer.1) ∧
      (client ∈ final.publisher.pendingCallbacks →
        (final.known client).version = final.publisher.version ∧
          (final.unsent = false → (final.known client).status = some final.status)) := by
  have invariant := run_invariant noWrap reached
  have absent (unparked : final.publisher.pendingCallbacks.count client = 0) :
      client ∉ final.publisher.pendingCallbacks := List.count_eq_zero.mp unparked
  cases invariant.place client with
  | idle away => exact absurd joined away
  | requested here asked unparked unanswered =>
    exact ⟨by simp [asked, unparked, unanswered], by simp [unanswered],
      fun parked => absurd parked (absent unparked)⟩
  | parked here unasked waits unanswered seen =>
    exact ⟨by simp [unasked, waits, unanswered], by simp [unanswered],
      fun _ => ⟨seen, (invariant.known client).2 seen⟩⟩
  | answered here version status unasked unparked sent newer =>
    exact ⟨by simp [unasked, unparked, sent], by simpa [sent] using newer,
      fun parked => absurd parked (absent unparked)⟩

theorem parked_client_is_current_after_update :
    ∃ final : PublisherSystem Nat Nat,
      run step (initial 7) [.connect 0, .request 0, .answer 0, .request 0, .change 8,
        .sendUpdates, .answer 0, .connect 1, .request 0, .request 1] = some final ∧
      (final.requests 1).length + final.publisher.pendingCallbacks.count 1 +
        (final.answers 1).length = 1 ∧
      (∀ answer ∈ final.answers 1, (final.known 1).version < answer.1) ∧
      (final.known 0).version = final.publisher.version ∧
      (final.known 0).status = some final.status := by
  obtain ⟨final, reached, first, second, waits, sent⟩ : ∃ final : PublisherSystem Nat Nat,
      run step (initial 7) [.connect 0, .request 0, .answer 0, .request 0, .change 8,
        .sendUpdates, .answer 0, .connect 1, .request 0, .request 1] = some final ∧
      0 ∈ final.connected ∧ 1 ∈ final.connected ∧ 0 ∈ final.publisher.pendingCallbacks ∧
      final.unsent = false := ⟨_, rfl, by decide, by decide, by decide, rfl⟩
  have waiting := (parked_client_is_current (by decide) reached first).2.2 waits
  have answered := parked_client_is_current (by decide) reached second
  exact ⟨final, reached, answered.1, answered.2.1, waiting.1, waiting.2 sent⟩

def Delivers : PublisherEvent Client Status → Prop
  | .request _ | .answer _ => True
  | .connect _ | .change _ | .sendUpdates => False

def remainingOf (system : PublisherSystem Client Status) (client : Client) : Nat :=
  match system.requests client, system.answers client with
  | version :: _, _ => if version < system.publisher.version then 3 else 1
  | [], (version, _) :: _ => if version < system.publisher.version then 4 else 2
  | [], [] => 0

def remaining (system : PublisherSystem Client Status) : Nat :=
  (system.connected.map system.remainingOf).sum

omit [DecidableEq Client] in
theorem remainingOf_le (system : PublisherSystem Client Status) (client : Client) :
    system.remainingOf client ≤ 4 := by
  unfold remainingOf
  split <;> (try split_ifs) <;> omega

omit [DecidableEq Client] in
theorem remaining_le (system : PublisherSystem Client Status) :
    system.remaining ≤ 4 * system.connected.length := by
  have bound := List.sum_le_card_nsmul (system.connected.map system.remainingOf) 4 (by
    intro count member
    obtain ⟨client, -, rfl⟩ := List.mem_map.mp member
    exact system.remainingOf_le client)
  simpa [remaining, Nat.mul_comm] using bound

theorem remainingOf_request {system next : PublisherSystem Client Status} {client : Client}
    (invariant : system.Invariant) (taken : system.step (.request client) = some next) :
    client ∈ system.connected ∧ system.remainingOf client = next.remainingOf client + 1 := by
  obtain ⟨⟨versionLastSeen, requests⟩, received, rfl⟩ := Option.map_eq_some_iff.mp taken
  obtain ⟨front, -⟩ := receive_cases received
  cases invariant.place client with
  | idle _ _ unasked | parked _ unasked | answered _ _ _ unasked => simp [unasked] at front
  | requested here asked unparked unanswered =>
    obtain ⟨rfl, empty⟩ : (system.known client).version = versionLastSeen ∧
        [] = requests client := by simpa [asked] using front
    refine ⟨here, ?_⟩
    rcases Nat.lt_or_ge (system.known client).version system.publisher.version with newer | seen
    next =>
      simp [remainingOf, runCallbacks, MojoPublisher.get_newer _ client newer, asked, newer,
        sendAll, unanswered, ← empty]
    next =>
      simp [remainingOf, runCallbacks, MojoPublisher.get_parks _ client seen, asked,
        Nat.not_lt.mpr seen, sendAll, unanswered, ← empty]

theorem remainingOf_answer {system next : PublisherSystem Client Status} {client : Client}
    (invariant : system.Invariant) (taken : system.step (.answer client) = some next) :
    client ∈ system.connected ∧ system.remainingOf client = next.remainingOf client + 1 := by
  obtain ⟨⟨⟨version, status⟩, answers⟩, received, rfl⟩ := Option.map_eq_some_iff.mp taken
  obtain ⟨front, -⟩ := receive_cases received
  cases invariant.place client with
  | idle _ _ _ _ unanswered | requested _ _ _ unanswered | parked _ _ _ unanswered =>
    simp [unanswered] at front
  | answered here number _ unasked unparked sent =>
    obtain ⟨⟨rfl, rfl⟩, empty⟩ : (number = version ∧ _ = status) ∧ [] = answers client := by
      simpa [sent] using front
    refine ⟨here, ?_⟩
    by_cases older : number < system.publisher.version <;>
      simp [remainingOf, unasked, sent, older]

structure Delivered (system next : PublisherSystem Client Status) (client : Client) : Prop where
  version : next.publisher.version = system.publisher.version
  status : next.status = system.status
  unsent : next.unsent = system.unsent
  connected : next.connected = system.connected
  others (other : Client) (different : other ≠ client) :
    next.remainingOf other = system.remainingOf other

theorem request_delivered {system next : PublisherSystem Client Status} {client : Client}
    (taken : system.step (.request client) = some next) : system.Delivered next client := by
  obtain ⟨⟨versionLastSeen, requests⟩, received, rfl⟩ := Option.map_eq_some_iff.mp taken
  obtain ⟨-, others⟩ := receive_cases received
  rcases Nat.lt_or_ge versionLastSeen system.publisher.version with newer | seen
  next =>
    simp only [MojoPublisher.get_newer _ client newer, runCallbacks]
    refine ⟨rfl, rfl, rfl, rfl, fun other different => ?_⟩
    simp [remainingOf, others other different, sendAll, different]
  next =>
    simp only [MojoPublisher.get_parks _ client seen, runCallbacks]
    refine ⟨rfl, rfl, rfl, rfl, fun other different => ?_⟩
    simp [remainingOf, others other different, sendAll]

theorem answer_delivered {system next : PublisherSystem Client Status} {client : Client}
    (taken : system.step (.answer client) = some next) : system.Delivered next client := by
  obtain ⟨⟨⟨version, status⟩, answers⟩, received, rfl⟩ := Option.map_eq_some_iff.mp taken
  obtain ⟨-, others⟩ := receive_cases received
  refine ⟨rfl, rfl, rfl, rfl, fun other different => ?_⟩
  simp [remainingOf, others other different, different]

theorem remaining_drops {system next : PublisherSystem Client Status} {client : Client}
    (invariant : system.Invariant) (joined : client ∈ system.connected)
    (here : system.remainingOf client = next.remainingOf client + 1)
    (delivered : system.Delivered next client) : system.remaining = next.remaining + 1 := by
  rw [remaining, remaining, delivered.connected]
  exact sum_map_succ invariant.distinct joined
    (fun other different => (delivered.others other different).symm) here

theorem delivery_cases {system next : PublisherSystem Client Status}
    {event : PublisherEvent Client Status} (invariant : system.Invariant)
    (delivers : Delivers event) (taken : system.step event = some next) :
    next.Invariant ∧ system.remaining = next.remaining + 1 ∧
      ∃ client, system.Delivered next client := by
  cases event with
  | connect client | change status | sendUpdates => cases delivers
  | request client =>
    obtain ⟨joined, here⟩ := remainingOf_request invariant taken
    have delivered := request_delivered taken
    exact ⟨request_invariant invariant taken, remaining_drops invariant joined here delivered,
      client, delivered⟩
  | answer client =>
    obtain ⟨joined, here⟩ := remainingOf_answer invariant taken
    have delivered := answer_delivered taken
    exact ⟨answer_invariant invariant taken, remaining_drops invariant joined here delivered,
      client, delivered⟩

theorem parked_of_atRest {system : PublisherSystem Client Status} (invariant : system.Invariant)
    (rest : AtRest step Delivers system) {client : Client} (joined : client ∈ system.connected) :
    (system.known client).version = system.publisher.version := by
  cases invariant.place client with
  | idle away => exact absurd joined away
  | requested here asked =>
    have blocked := rest (.request client) trivial
    simp [step, receive, asked] at blocked
  | parked here unasked waits unanswered seen => exact seen
  | answered here version status unasked unparked sent =>
    have blocked := rest (.answer client) trivial
    simp [step, receive, sent] at blocked

-- Deliveries alone bring every client up to date: whatever their order, there are no more than
-- four for each client, and when none is left every client has the last status.
theorem deliveries_bring_clients_up_to_date {status : Status}
    {sent settled : PublisherSystem Client Status}
    {events deliveries : List (PublisherEvent Client Status)}
    (noWrap : Meets step NoWrap (initial status) events)
    (reached : run step (initial status) events = some sent)
    (only : ∀ event ∈ deliveries, Delivers event)
    (delivered : run step sent deliveries = some settled) :
    deliveries.length ≤ 4 * sent.connected.length ∧
      (AtRest step Delivers settled → ∀ client ∈ sent.connected,
        (settled.known client).version = sent.publisher.version ∧
          (sent.unsent = false → (settled.known client).status = some sent.status)) := by
  have start := run_invariant noWrap reached
  constructor
  · have counted := length_add_of_drops step Delivers remaining Invariant
      (fun _ _ _ invariant delivers taken => (delivery_cases invariant delivers taken).1)
      (fun _ _ _ invariant delivers taken => (delivery_cases invariant delivers taken).2.1)
      _ _ _ start only delivered
    have bound := sent.remaining_le
    omega
  · intro rest client joined
    -- The publisher's news stay what they were when the deliveries began.
    have kept := invariant_of_step step (fun _ event => Delivers event)
      (fun system => system.Invariant ∧ system.publisher.version = sent.publisher.version ∧
        system.status = sent.status ∧ system.unsent = sent.unsent ∧
        system.connected = sent.connected)
      (by
        rintro system event next ⟨invariant, version, status, unsent, connected⟩ delivers taken
        obtain ⟨after, -, _, kept⟩ := delivery_cases invariant delivers taken
        exact ⟨after, kept.version.trans version, kept.status.trans status,
          kept.unsent.trans unsent, kept.connected.trans connected⟩)
      _ _ _ ⟨start, rfl, rfl, rfl, rfl⟩
      (meets_of_forall step _ _ _ fun _ event member => only event member) delivered
    obtain ⟨invariant, version, status, unsent, connected⟩ := kept
    have seen := parked_of_atRest invariant rest (connected ▸ joined)
    have current := (invariant.known client).2 seen
    rw [← version, ← status, ← unsent]
    exact ⟨seen, current⟩

theorem deliveries_bring_clients_up_to_date_for_two :
    ∃ sent settled : PublisherSystem Bool Nat,
      run step (initial 7) [.connect false, .connect true, .change 8, .sendUpdates] = some sent ∧
      run step sent [.request true, .request false, .answer false, .request false, .answer true,
        .request true] = some settled ∧
      6 ≤ 4 * sent.connected.length ∧
      ∀ client ∈ sent.connected, (settled.known client).version = sent.publisher.version ∧
        (settled.known client).status = some sent.status := by
  obtain ⟨sent, reached, new⟩ : ∃ sent : PublisherSystem Bool Nat,
      run step (initial 7) [.connect false, .connect true, .change 8, .sendUpdates] = some sent ∧
        sent.unsent = false := ⟨_, rfl, rfl⟩
  obtain ⟨settled, delivered, rest⟩ : ∃ settled, run step sent [.request true, .request false,
      .answer false, .request false, .answer true, .request true] = some settled ∧
        AtRest step Delivers settled := by
    cases reached
    refine ⟨_, rfl, fun event delivers => ?_⟩
    match event, delivers with
    | .request false, _ | .request true, _ | .answer false, _ | .answer true, _ => rfl
  have settles := deliveries_bring_clients_up_to_date (by decide) reached (by simp [Delivers])
    delivered
  refine ⟨sent, settled, reached, delivered, settles.1, fun client joined => ?_⟩
  have current := settles.2 rest client joined
  exact ⟨current.1, current.2 new⟩

end PublisherSystem

end MojoMedia
