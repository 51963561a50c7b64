import MojoMedia.Framework.ReaderCacheBytes

set_option autoImplicit false

namespace MojoMedia

open OrderedMap MachineInt Runs SparseByteBuffer

def Completion.Consistent (completion : Completion) : Prop :=
  completion.result = .ok ∧ 0 < completion.bytesRead ∨
    completion.result ≠ .ok ∧ completion.bytesRead = 0

instance (completion : Completion) : Decidable completion.Consistent :=
  inferInstanceAs (Decidable (_ ∨ _))

def ReadAtRequest.Untouched (request : ReadAtRequest) : Prop :=
  request.remainingBytesToRead = request.originalBytesToRead

def Intake.count : Intake → Option Nat
  | .reading _ count => some count
  | .idle | .delivered | .stopped => none

theorem Intake.count_eq (intake : Intake) (count : Nat) :
    intake.count = some count ↔ ∃ position, intake = .reading position count := by
  cases intake <;> simp [Intake.count]

namespace Store

variable (store : Store) {request : ReadAtRequest}

theorem serveRequest_of_failed (asked : store.readRequest = some request)
    (failed : store.result ≠ .ok) :
    store.serveRequest =
      some ({ store with readRequest := none }, some (request.complete store.result)) := by
  have looped : serveLoop store.readRequestRemainingBytes store request =
      some (true, store, request) := by
    cases store.readRequestRemainingBytes <;> rw [serveLoop, if_pos (.inl failed)]
  simp [serveRequest, asked, looped]

theorem reportIntakeError_of_failed {result : Result} (failed : result ≠ .ok) :
    store.reportIntakeError result =
      some ({ store with result, readRequest := none },
        store.readRequest.map fun request => request.complete result) := by
  cases asked : store.readRequest with
  | none =>
    have same : ({ store with result, readRequest := none } : Store) = { store with result } := by
      rw [← asked]
    rw [reportIntakeError, serveIfAsked, if_neg (by simp [asked]), same]
    rfl
  | some request =>
    rw [reportIntakeError, serveIfAsked, if_pos (by simp [asked])]
    exact serveRequest_of_failed { store with result } asked failed

theorem setReadAtRequest_of_failed (request : ReadAtRequest) (failed : store.result ≠ .ok) :
    ∃ next, store.setReadAtRequest request = some (next, some (request.complete store.result)) ∧
      next.buffer = store.buffer ∧ next.readRequest = none :=
  ⟨_, serveRequest_of_failed _ rfl (by exact failed), rfl, rfl⟩

end Store

namespace ReaderCache

-- Every call of `ReadAt` has been completed once or is in progress, and every callback was told
-- of bytes or of an error.
structure Answered (cache : ReaderCache) : Prop where
  conserved : cache.completions.map Completion.request ++
    cache.inProgress.toList.map ReadAtRequest.request = cache.requests
  consistent : ∀ completion ∈ cache.completions, completion.Consistent

def Offered (size : Nat) (cache : ReaderCache) : Event → Prop
  | .describe result described _ =>
    cache.describePhase = .pending ∧ (result = .ok → described = size)
  | .occur => cache.describePhase = .initialized
  | .start => cache.describePhase = .occurred ∧ cache.describeResult = .ok ∧ cache.intake = .idle
  | .readAt position bytesToRead =>
    cache.inProgress = none ∧ position < size ∧ 0 < bytesToRead ∧ position + bytesToRead < 2 ^ 64
  | .intakeComplete _ bytes => ∃ position, cache.intake = .reading position bytes.length
  | .continueIntake => cache.intake = .delivered

-- A request finds no region, or one that starts at or before it, and the upstream reader does not
-- fail while the request in progress has been served in part.
def Unbroken (cache : ReaderCache) : Event → Prop
  | .readAt position _ => cache.describePhase = .occurred → cache.store.result = .ok →
      cache.store.buffer.Begun position
  | .intakeComplete result _ => result ≠ .ok →
      ∀ request, cache.store.readRequest = some request → request.Untouched
  | _ => True

def Answers (cache : ReaderCache) (event : Event) : Prop :=
  ∃ next, step cache event = some next ∧ Answered next

structure Broken (cache : ReaderCache) : Prop where
  failed : Failed cache
  answered : Answered cache
  notAsked : cache.store.readRequest = none
  waiting : ∀ request, cache.waiting = some request →
    cache.describePhase ≠ .occurred ∧ request.Untouched

def zeros (size : Nat) : List UInt8 := List.replicate size 0

def blanked (cache : ReaderCache) : ReaderCache := cache.mapBytes fun _ => 0

structure Sound (size : Nat) (cache : ReaderCache) : Prop where
  inside : ∀ request ∈ cache.requests, request.1 < size ∧ 0 < request.2
  phase : Inv (zeros size) cache.blanked ∨ Broken cache

variable {size : Nat} {cache next : ReaderCache}

theorem map_zero (bytes : List UInt8) : bytes.map (fun _ => (0 : UInt8)) = zeros bytes.length := by
  rw [zeros, List.map_const']

theorem slice_zeros {size position count : Nat} (inside : position + count ≤ size) :
    slice (zeros size) position count = zeros count := by
  simp only [slice, zeros, List.drop_replicate, List.take_replicate]
  rw [Nat.min_eq_left (by omega)]

@[simp] theorem zeros_length (size : Nat) : (zeros size).length = size := List.length_replicate

theorem blanked_conserved (cache : ReaderCache) :
    cache.blanked.completions.map Completion.request ++
        cache.blanked.inProgress.toList.map ReadAtRequest.request =
      cache.completions.map Completion.request ++
        cache.inProgress.toList.map ReadAtRequest.request := by
  rw [blanked, inProgress_mapBytes]
  simp only [mapBytes, List.map_map]
  cases cache.inProgress <;> rfl

theorem Sound.answered (sound : Sound size cache) : Answered cache := by
  obtain ⟨inside, inv | broken⟩ := sound
  swap
  · exact broken.answered
  have conserved := (blanked_conserved cache).symm.trans inv.conserved
  have sameRequests : cache.blanked.requests = cache.requests := rfl
  refine ⟨conserved.trans sameRequests, ?_⟩
  intro completion member
  obtain ⟨ok, copied, count⟩ := inv.exactly (completion.mapBytes fun _ => 0)
    (List.mem_map.mpr ⟨completion, member, rfl⟩)
  have made : completion.request ∈ cache.requests := by
    rw [← sameRequests, ← conserved]
    exact List.mem_append_left _ (List.mem_map.mpr ⟨completion, member, rfl⟩)
  obtain ⟨start, positive⟩ := inside _ made
  simp only [Completion.request] at start positive
  refine .inl ⟨ok, ?_⟩
  have length := congrArg List.length copied
  rw [slice_length _ _ _ (by simp only [zeros_length, Completion.mapBytes]; omega)] at length
  simp only [zeros_length, Completion.mapBytes] at length count
  omega

-- Callbacks are called one after the other, and only a call of `ReadAt` is a new request.
structure Extends (cache next : ReaderCache) (made : List (Nat × Nat)) : Prop where
  completions : cache.completions <+: next.completions
  requests : next.requests = cache.requests ++ made
  described : cache.describePhase ≠ .pending → next.describePhase ≠ .pending

def Event.made : Event → List (Nat × Nat)
  | .readAt position bytesToRead => [(position, bytesToRead)]
  | _ => []

theorem extends_served (outcome : Store × Option Completion) (made : List (Nat × Nat))
    (completions : next.completions = cache.completions)
    (requests : next.requests = cache.requests ++ made)
    (described : cache.describePhase ≠ .pending → next.describePhase ≠ .pending) :
    Extends cache (next.served outcome) made := by
  refine ⟨?_, requests, described⟩
  rw [served, completions]
  exact List.prefix_append _ _

theorem extends_same (completions : next.completions = cache.completions)
    (requests : next.requests = cache.requests)
    (described : cache.describePhase ≠ .pending → next.describePhase ≠ .pending) :
    Extends cache next [] := by
  refine ⟨?_, by simp [requests], described⟩
  simp only [completions, List.prefix_rfl]

theorem continueIntake_extends (taken : cache.continueIntake = some next) :
    Extends cache next [] := by
  obtain ⟨⟨found, store⟩, -, same⟩ := Option.bind_eq_some_iff.mp taken
  cases found with
  | none =>
    obtain rfl := Option.some.inj same
    exact extends_same rfl rfl id
  | some read =>
    obtain rfl := Option.some.inj same
    exact extends_same rfl rfl id

theorem step_extends {event : Event} (taken : step cache event = some next) :
    Extends cache next event.made := by
  cases event with
  | describe result described canSeek =>
    simp only [step, Option.ite_none_right_eq_some, describe] at taken
    obtain ⟨store, -, same⟩ := Option.bind_eq_some_iff.mp taken.2
    obtain rfl := Option.some.inj same
    exact extends_same rfl rfl (by simp)
  | occur =>
    simp only [step, Option.ite_none_right_eq_some, occur] at taken
    obtain ⟨-, taken⟩ := taken
    split at taken
    next =>
      obtain rfl := Option.some.inj taken
      exact extends_same rfl rfl (by simp)
    next =>
      obtain ⟨outcome, -, same⟩ := Option.bind_eq_some_iff.mp taken
      obtain rfl := Option.some.inj same
      exact extends_served outcome _ rfl (List.append_nil _).symm (by simp)
  | start =>
    simp only [step, Option.ite_none_right_eq_some] at taken
    exact continueIntake_extends taken.2
  | readAt position bytesToRead =>
    simp only [step, Option.ite_none_right_eq_some, readAt] at taken
    obtain ⟨-, taken⟩ := taken
    split at taken
    next =>
      obtain ⟨outcome, -, same⟩ := Option.bind_eq_some_iff.mp taken
      obtain rfl := Option.some.inj same
      exact extends_served outcome _ rfl rfl id
    next =>
      obtain rfl := Option.some.inj taken
      exact ⟨List.prefix_refl _, rfl, id⟩
  | intakeComplete result bytes =>
    simp only [step] at taken
    split at taken
    next =>
      obtain ⟨-, taken⟩ := (Option.ite_none_right_eq_some).mp taken
      unfold intakeComplete at taken
      split at taken
      next =>
        obtain ⟨outcome, -, same⟩ := Option.bind_eq_some_iff.mp taken
        obtain rfl := Option.some.inj same
        exact extends_served outcome _ rfl (List.append_nil _).symm id
      next =>
        obtain ⟨outcome, -, same⟩ := Option.bind_eq_some_iff.mp taken
        obtain rfl := Option.some.inj same
        exact extends_served outcome _ rfl (List.append_nil _).symm id
    next => cases taken
  | continueIntake =>
    simp only [step, Option.ite_none_right_eq_some] at taken
    exact continueIntake_extends taken.2

theorem step_of_blanked (inv : Inv (zeros size) cache.blanked) (nonempty : 0 < size)
    (fits : size < 2 ^ 64) (event : Event)
    (guard : Allowed (zeros size) cache.blanked (event.mapBytes fun _ => 0) ∧
      FindsRegion cache.blanked (event.mapBytes fun _ => 0)) :
    ∃ next, step cache event = some next ∧ Inv (zeros size) next.blanked ∧ Advances cache next := by
  obtain ⟨after, taken, kept, advances⟩ :=
    step_spec (by simpa using nonempty) (by simpa using fits) inv _ guard
  rw [blanked, step_mapBytes] at taken
  obtain ⟨next, same, rfl⟩ := Option.map_eq_some_iff.mp taken
  refine ⟨next, same, kept, ?_⟩
  intro asked
  have mapped := advances (by simpa [blanked, inProgress_mapBytes] using asked)
  simp only [blanked, inProgress_mapBytes, weight_mapBytes] at mapped
  rcases mapped with completed | ⟨sameCompletions, still, lighter⟩
  · exact .inl (by simpa [mapBytes] using completed)
  · have sameLength := congrArg List.length sameCompletions
    simp only [mapBytes, List.length_map] at sameLength
    exact .inr ⟨((step_extends same).completions.eq_of_length sameLength.symm).symm,
      by simpa using still, lighter⟩

theorem Sound.inside_step (sound : Sound size cache) {event : Event}
    (offered : Offered size cache event) (taken : step cache event = some next) :
    ∀ request ∈ next.requests, request.1 < size ∧ 0 < request.2 := by
  rw [(step_extends taken).requests]
  intro request member
  rcases List.mem_append.mp member with before | now
  · exact sound.inside request before
  · cases event with
    | readAt position bytesToRead =>
      obtain rfl := List.mem_singleton.mp now
      exact ⟨offered.2.1, offered.2.2.1⟩
    | _ => cases now

theorem consistent_of_untouched {request : ReadAtRequest} {result : Result}
    (failed : result ≠ .ok) (untouched : request.Untouched) :
    (request.complete result).Consistent := by
  refine .inr ⟨failed, ?_⟩
  have same : request.remainingBytesToRead = request.originalBytesToRead := untouched
  simp [ReadAtRequest.complete, same]

theorem answered_failed {request : ReadAtRequest} {result : Result}
    (answered : Answered cache) (asked : cache.inProgress = some request)
    (failed : result ≠ .ok) (untouched : request.Untouched)
    (requests : next.requests = cache.requests)
    (completed : next.completions = cache.completions ++ [request.complete result])
    (free : next.inProgress = none) : Answered next := by
  obtain ⟨conserved, consistent⟩ := answered
  refine ⟨?_, ?_⟩
  · rw [completed, free, requests, ← conserved, asked]
    simp [ReadAtRequest.complete, Completion.request, ReadAtRequest.request]
  · rw [completed]
    intro completion member
    rcases List.mem_append.mp member with before | now
    · exact consistent completion before
    · obtain rfl := List.mem_singleton.mp now
      exact consistent_of_untouched failed untouched

theorem advances_of_free (free : cache.inProgress = none) (next : ReaderCache) :
    Advances cache next :=
  fun asked => absurd free asked

theorem advances_of_completed {completion : Completion}
    (completed : next.completions = cache.completions ++ [completion]) : Advances cache next := by
  intro _
  rw [completed]
  simp

theorem Broken.inProgress (broken : Broken cache) : cache.inProgress = cache.waiting := by
  rw [ReaderCache.inProgress, broken.notAsked, Option.or_none]

theorem Broken.occur (broken : Broken cache) (initialized : cache.describePhase = .initialized) :
    ∃ next, step cache .occur = some next ∧ Broken next ∧ Advances cache next := by
  have taken : step cache .occur = cache.occur := by rw [step, if_pos initialized]
  cases asked : cache.waiting with
  | none =>
    have result : cache.occur = some { cache with describePhase := .occurred } := by
      simp only [ReaderCache.occur, asked]
    have free : cache.inProgress = none := broken.inProgress.trans asked
    refine ⟨_, taken.trans result, ⟨step_failed broken.failed (taken.trans result),
      ⟨broken.answered.conserved, broken.answered.consistent⟩, broken.notAsked, ?_⟩,
      advances_of_free free _⟩
    intro request waiting
    cases asked.symm.trans waiting
  | some request =>
    obtain ⟨after, completes, -, notAsked⟩ :=
      Store.setReadAtRequest_of_failed _ request broken.failed.failed
    have result : cache.occur = some (served { cache with
        describePhase := .occurred
        waiting := none } (after, some (request.complete cache.store.result))) := by
      simp only [ReaderCache.occur, asked, completes, Option.bind_eq_bind, Option.bind_some]
    have inProgress : cache.inProgress = some request := broken.inProgress.trans asked
    refine ⟨_, taken.trans result, ⟨step_failed broken.failed (taken.trans result), ?_, notAsked,
      ?_⟩, advances_of_completed rfl⟩
    · exact answered_failed broken.answered inProgress broken.failed.failed
        (broken.waiting request asked).2 rfl rfl notAsked
    · intro other waits
      cases waits

theorem Broken.readAt (broken : Broken cache) (free : cache.inProgress = none)
    (position bytesToRead : Nat) :
    ∃ next, step cache (.readAt position bytesToRead) = some next ∧ Broken next ∧
      Advances cache next := by
  have taken : step cache (.readAt position bytesToRead) = cache.readAt position bytesToRead := by
    rw [step, if_pos free]
  have notWaiting : cache.waiting = none := broken.inProgress.symm.trans free
  obtain ⟨conserved, consistent⟩ := broken.answered
  rw [free] at conserved
  by_cases occurred : cache.describePhase = .occurred
  · obtain ⟨after, completes, -, notAsked⟩ := Store.setReadAtRequest_of_failed _
      (.started position bytesToRead) broken.failed.failed
    have result : cache.readAt position bytesToRead = some (served { cache with
        requests := cache.requests ++ [(position, bytesToRead)] } (after,
          some ((ReadAtRequest.started position bytesToRead).complete cache.store.result))) := by
      simp only [ReaderCache.readAt]
      rw [if_pos occurred, completes]
      rfl
    refine ⟨_, taken.trans result, ⟨step_failed broken.failed (taken.trans result), ⟨?_, ?_⟩,
      notAsked, ?_⟩, advances_of_free free _⟩
    · simp only [Option.toList_none, List.map_nil, List.append_nil] at conserved
      simp [served, ReaderCache.inProgress, notWaiting, notAsked, conserved, Completion.request,
        ReadAtRequest.complete, ReadAtRequest.started]
    · intro completion member
      rcases List.mem_append.mp member with before | now
      · exact consistent completion before
      · obtain rfl := List.mem_singleton.mp now
        exact consistent_of_untouched broken.failed.failed rfl
    · intro request waiting
      cases notWaiting.symm.trans waiting
  · have result : cache.readAt position bytesToRead = some { cache with
        requests := cache.requests ++ [(position, bytesToRead)]
        waiting := some (.started position bytesToRead) } := by
      simp only [ReaderCache.readAt]
      rw [if_neg occurred]
    refine ⟨_, taken.trans result, ⟨step_failed broken.failed (taken.trans result),
      ⟨?_, consistent⟩, broken.notAsked, ?_⟩, advances_of_free free _⟩
    · simp only [Option.toList_none, List.map_nil, List.append_nil] at conserved
      simp [ReaderCache.inProgress, conserved, ReadAtRequest.request, ReadAtRequest.started]
    · rintro request ⟨⟩
      exact ⟨occurred, rfl⟩

theorem Broken.step_spec (broken : Broken cache) {event : Event}
    (offered : Offered size cache event) :
    ∃ next, step cache event = some next ∧ Broken next ∧ Advances cache next := by
  cases event with
  | describe result described canSeek => exact absurd offered.1 broken.failed.described
  | occur => exact broken.occur offered
  | start =>
    obtain ⟨-, ok, idle⟩ := offered
    rcases broken.failed.quiet with stopped | ⟨-, wrong⟩
    · cases stopped.symm.trans idle
    · exact absurd ok wrong
  | readAt position bytesToRead => exact broken.readAt offered.1 position bytesToRead
  | intakeComplete result bytes =>
    obtain ⟨position, reading⟩ := offered
    rcases broken.failed.quiet with stopped | ⟨idle, -⟩
    · cases stopped.symm.trans reading
    · cases idle.symm.trans reading
  | continueIntake =>
    have delivered : cache.intake = .delivered := offered
    rcases broken.failed.quiet with stopped | ⟨idle, -⟩
    · cases stopped.symm.trans delivered
    · cases idle.symm.trans delivered

theorem blanked_notAsked : cache.blanked.store.readRequest = none ↔
    cache.store.readRequest = none := by
  simp [blanked, mapBytes, Store.mapBytes]

theorem untouched_of_readable
    (readable : ∀ request ∈ cache.blanked.waiting, Readable (zeros size) request) :
    ∀ request, cache.waiting = some request → request.Untouched := by
  intro request waiting
  obtain ⟨position, bytesToRead, same, -⟩ := readable (request.mapBytes fun _ => 0)
    (by simp [blanked, mapBytes, waiting])
  have remaining := congrArg ReadAtRequest.remainingBytesToRead same
  have original := congrArg ReadAtRequest.originalBytesToRead same
  exact Eq.trans remaining original.symm

theorem describe_failed (sound : Sound size cache) (inv : Inv (zeros size) cache.blanked)
    (pending : cache.describePhase = .pending) {result : Result} (failed : result ≠ .ok)
    (described : Nat) (canSeek : Bool) :
    ∃ next, cache.describe result described canSeek = some next ∧ Broken next ∧
      Advances cache next := by
  have phase := inv.phase
  rw [show cache.blanked.describePhase = .pending from pending] at phase
  obtain ⟨quiet, idle, readable⟩ := phase
  obtain ⟨conserved, consistent⟩ := sound.answered
  have notAsked := blanked_notAsked.mp quiet
  simp only [describe, Store.initialized, findHole_initialized, Option.bind_eq_bind,
    Option.bind_some]
  refine ⟨_, rfl, ⟨⟨failed, by simp, .inr ⟨idle, failed⟩⟩, ⟨?_, consistent⟩, notAsked, ?_⟩, ?_⟩
  · simp only [inProgress, notAsked] at conserved ⊢
    exact conserved
  · intro request waiting
    exact ⟨by simp, untouched_of_readable readable request waiting⟩
  · intro asked
    refine .inr ⟨rfl, ?_, ?_⟩
    · simp only [inProgress, notAsked] at asked ⊢
      exact asked
    · simp only [weight, pending]
      omega

def aborted (cache : ReaderCache) (result : Result) : ReaderCache :=
  served { cache with intake := .stopped }
    ({ cache.store with result, readRequest := none },
      cache.store.readRequest.map fun request => request.complete result)

theorem intakeComplete_failed (cache : ReaderCache) {result : Result} (failed : result ≠ .ok)
    (position : Nat) (bytes : List UInt8) :
    cache.intakeComplete position result bytes = some (cache.aborted result) := by
  simp only [intakeComplete, if_neg failed, Store.reportIntakeError_of_failed _ failed,
    Option.bind_eq_bind, Option.bind_some, aborted]

theorem aborted_inProgress (notWaiting : cache.waiting = none) (result : Result) :
    (cache.aborted result).inProgress = none := by
  simp [aborted, served, inProgress, notWaiting]

theorem aborted_broken (occurred : cache.describePhase = .occurred)
    (notWaiting : cache.waiting = none) {result : Result} (failed : result ≠ .ok)
    (answered : Answered (cache.aborted result)) : Broken (cache.aborted result) := by
  refine ⟨⟨failed, by simp [aborted, served, occurred], .inl rfl⟩, answered, rfl, ?_⟩
  intro request waiting
  cases notWaiting.symm.trans waiting

theorem aborted_advances (notWaiting : cache.waiting = none) (result : Result) :
    Advances cache (cache.aborted result) := by
  cases asked : cache.store.readRequest with
  | none => exact advances_of_free (by simp [inProgress, notWaiting, asked]) _
  | some request =>
    refine @advances_of_completed _ _ (request.complete result) ?_
    simp [aborted, served, asked]

theorem aborted_answered_iff (answered : Answered cache) (notWaiting : cache.waiting = none)
    {result : Result} (failed : result ≠ .ok)
    (counts : ∀ request, cache.store.readRequest = some request →
      request.remainingBytesToRead ≤ request.originalBytesToRead) :
    Answered (cache.aborted result) ↔
      ∀ request, cache.store.readRequest = some request → request.Untouched := by
  have free := aborted_inProgress notWaiting result
  cases asked : cache.store.readRequest with
  | none =>
    refine iff_of_true ?_ nofun
    obtain ⟨conserved, consistent⟩ := answered
    simp only [inProgress, notWaiting, asked] at conserved
    have completed : (cache.aborted result).completions = cache.completions := by
      simp [aborted, served, asked]
    refine ⟨?_, ?_⟩
    · rw [completed, free]
      exact conserved
    · rw [completed]
      exact consistent
  | some request =>
    have inProgress : cache.inProgress = some request := by
      simp [ReaderCache.inProgress, notWaiting, asked]
    have completed : (cache.aborted result).completions =
        cache.completions ++ [request.complete result] := by
      simp [aborted, served, asked]
    constructor
    · rintro after other ⟨⟩
      have member : request.complete result ∈ (cache.aborted result).completions := by
        simp [completed]
      have few := counts request asked
      rcases after.consistent _ member with ⟨ok, -⟩ | ⟨-, nothing⟩
      · exact absurd ok failed
      · simp only [ReadAtRequest.complete] at nothing
        simp only [ReadAtRequest.Untouched]
        omega
    · intro untouched
      exact answered_failed answered inProgress failed (untouched request rfl) rfl completed free

theorem blanked_running (inv : Inv (zeros size) cache.blanked)
    (occurred : cache.describePhase = .occurred) :
    cache.waiting = none ∧ cache.blanked.store.Running (zeros size) cache.intake := by
  have phase := inv.phase
  rw [show cache.blanked.describePhase = .occurred from occurred] at phase
  exact ⟨by simpa [blanked, mapBytes] using phase.1, phase.2.2⟩

theorem occurred_of_reading (inv : Inv (zeros size) cache.blanked) {position count : Nat}
    (reading : cache.intake = .reading position count) : cache.describePhase = .occurred :=
  @Inv.occurred_of_intake _ cache.blanked inv (by simp [blanked, mapBytes, reading])

theorem intakeComplete_guard (inv : Inv (zeros size) cache.blanked) {position : Nat}
    {bytes : List UInt8} (reading : cache.intake = .reading position bytes.length) :
    Allowed (zeros size) cache.blanked (.intakeComplete .ok (bytes.map fun _ => 0)) := by
  have running := (blanked_running inv (occurred_of_reading inv reading)).2
  rw [reading] at running
  obtain ⟨positive, -, -, free⟩ := running.intakeReady
  have inside := running.faithful.free_inside positive free
  have same : cache.blanked.intake = .reading position bytes.length := reading
  simp only [Allowed, same, true_and]
  rw [slice_zeros (by simpa using inside), map_zero]

theorem readAt_guard (inv : Inv (zeros size) cache.blanked) {position bytesToRead : Nat}
    (offered : Offered size cache (.readAt position bytesToRead))
    (unbroken : Unbroken cache (.readAt position bytesToRead)) :
    Allowed (zeros size) cache.blanked (.readAt position bytesToRead) ∧
      FindsRegion cache.blanked (.readAt position bytesToRead) := by
  obtain ⟨free, inside, positive, small⟩ := offered
  refine ⟨⟨by simp [blanked, inProgress_mapBytes, free], by simpa using inside, positive⟩, small,
    ?_⟩
  intro occurred
  have ok : cache.store.result = .ok := (blanked_running inv occurred).2.faithful.ok
  exact (SparseByteBuffer.mapBytes_begun _ _ _).mpr (unbroken occurred ok)

theorem readAt_stuck (inv : Inv (zeros size) cache.blanked) {position bytesToRead : Nat}
    (offered : Offered size cache (.readAt position bytesToRead))
    (occurred : cache.describePhase = .occurred)
    (notBegun : ¬ cache.store.buffer.Begun position)
    (taken : step cache (.readAt position bytesToRead) = some next) : False := by
  obtain ⟨free, inside, positive, small⟩ := offered
  have stuck := Store.setReadAtRequest_not_begun (blanked_running inv occurred).2.faithful
    (by simpa using inside) positive small
    (fun begun => notBegun ((SparseByteBuffer.mapBytes_begun _ _ _).mp begun))
  have mapped := Store.setReadAtRequest_mapBytes (fun _ => 0) cache.store
    (.started position bytesToRead)
  have none := Option.map_eq_none_iff.mp (mapped.symm.trans stuck)
  simp [step, free, readAt, occurred, none] at taken

theorem Sound.step_spec (nonempty : 0 < size) (fits : size < 2 ^ 64) (sound : Sound size cache)
    (event : Event) (guard : Offered size cache event ∧ Unbroken cache event) :
    ∃ next, step cache event = some next ∧ Sound size next ∧ Advances cache next := by
  obtain ⟨offered, unbroken⟩ := guard
  rcases sound.phase with inv | broken
  swap
  · obtain ⟨next, taken, kept, advances⟩ := broken.step_spec offered
    exact ⟨next, taken, ⟨sound.inside_step offered taken, .inr kept⟩, advances⟩
  -- An event that does not fail is one that an asset of zeros allows.
  have unfailing (allowed : Allowed (zeros size) cache.blanked (event.mapBytes fun _ => 0) ∧
      FindsRegion cache.blanked (event.mapBytes fun _ => 0)) :
      ∃ next, step cache event = some next ∧ Sound size next ∧ Advances cache next := by
    obtain ⟨next, taken, kept, advances⟩ := step_of_blanked inv nonempty fits event allowed
    exact ⟨next, taken, ⟨sound.inside_step offered taken, .inl kept⟩, advances⟩
  cases event with
  | describe result described canSeek =>
    have pending := offered.1
    have sized := offered.2
    by_cases failed : result = .ok
    · subst failed
      exact unfailing ⟨⟨pending, rfl, by simpa using sized rfl⟩, trivial⟩
    · obtain ⟨next, ran, kept, advances⟩ :=
        describe_failed sound inv pending failed described canSeek
      have taken : step cache (.describe result described canSeek) = some next := by
        rw [step, if_pos pending, ran]
      exact ⟨next, taken, ⟨sound.inside_step offered taken, .inr kept⟩, advances⟩
  | occur => exact unfailing ⟨offered, trivial⟩
  | start => exact unfailing ⟨⟨offered.1, offered.2.2⟩, trivial⟩
  | readAt position bytesToRead => exact unfailing (readAt_guard inv offered unbroken)
  | intakeComplete result bytes =>
    have started : ∃ position, cache.intake = .reading position bytes.length := offered
    obtain ⟨position, reading⟩ := started
    by_cases ok : result = .ok
    · subst ok
      exact unfailing ⟨intakeComplete_guard inv reading, trivial⟩
    · have occurred := occurred_of_reading inv reading
      obtain ⟨notWaiting, running⟩ := blanked_running inv occurred
      have answered := (aborted_answered_iff sound.answered notWaiting ok ?_).mpr (unbroken ok)
      · have taken : step cache (.intakeComplete result bytes) = some (cache.aborted result) := by
          simp only [step, reading, if_true, intakeComplete_failed cache ok]
        exact ⟨_, taken, ⟨sound.inside_step offered taken,
          .inr (aborted_broken occurred notWaiting ok answered)⟩,
          aborted_advances notWaiting result⟩
      · intro request asked
        exact Nat.le_of_eq (unbroken ok request asked)
  | continueIntake => exact unfailing ⟨offered, trivial⟩

theorem Sound.unbroken_of_answers (sound : Sound size cache) {event : Event}
    (offered : Offered size cache event) (answers : Answers cache event) :
    Unbroken cache event := by
  obtain ⟨next, taken, answered⟩ := answers
  cases event with
  | readAt position bytesToRead =>
    intro occurred ok
    rcases sound.phase with inv | broken
    swap
    · exact absurd ok broken.failed.failed
    by_contra notBegun
    exact readAt_stuck inv offered occurred notBegun taken
  | intakeComplete result bytes =>
    intro failed
    obtain ⟨position, reading⟩ := offered
    rcases sound.phase with inv | broken
    swap
    · intro request asked
      cases broken.notAsked.symm.trans asked
    obtain ⟨notWaiting, running⟩ := blanked_running inv (occurred_of_reading inv reading)
    simp only [step, reading, if_true, intakeComplete_failed cache failed] at taken
    obtain rfl := Option.some.inj taken
    refine (aborted_answered_iff sound.answered notWaiting failed ?_).mp answered
    intro request asked
    have counts := (running.waiting (request.mapBytes fun _ => 0)
      (by simp [blanked, mapBytes, Store.mapBytes, asked])).follows.counts
    simp only [ReadAtRequest.mapBytes] at counts
    omega
  | _ => trivial

theorem sound_start (size : Nat) : Sound size { } := ⟨nofun, .inl inv_start⟩

theorem Sound.exists_offered (sound : Sound size cache) (asked : cache.inProgress ≠ none) :
    ∃ event, Offered size cache event ∧ Unbroken cache event := by
  rcases sound.phase with inv | broken
  · cases phaseIs : cache.describePhase with
    | pending => exact ⟨.describe .ok size true, ⟨phaseIs, fun _ => rfl⟩, trivial⟩
    | initialized => exact ⟨.occur, phaseIs, trivial⟩
    | occurred =>
      obtain ⟨notWaiting, running⟩ := blanked_running inv phaseIs
      have phase := inv.phase
      rw [show cache.blanked.describePhase = .occurred from phaseIs] at phase
      cases intakeIs : cache.intake with
      | idle => exact ⟨.start, ⟨phaseIs, phase.2.1, intakeIs⟩, trivial⟩
      | reading position count =>
        refine ⟨.intakeComplete .ok (zeros count), ⟨position, ?_⟩, fun failed => absurd rfl failed⟩
        rw [zeros_length, intakeIs]
      | delivered => exact ⟨.continueIntake, intakeIs, trivial⟩
      | stopped =>
        -- Without holes there is nothing left to wait for.
        simp only [inProgress, notWaiting, Option.none_or] at asked
        obtain ⟨request, isRequest⟩ := Option.ne_none_iff_exists'.mp asked
        rw [intakeIs] at running
        obtain ⟨key, count, there, -⟩ := (running.waiting (request.mapBytes fun _ => 0)
          (by simp [blanked, mapBytes, Store.mapBytes, isRequest])).inHole
        rw [running.intakeReady.2 key] at there
        cases there
  · -- Only a request that waits for the description is left when something has failed.
    rw [broken.inProgress] at asked
    obtain ⟨request, isRequest⟩ := Option.ne_none_iff_exists'.mp asked
    have early := (broken.waiting request isRequest).1
    cases phaseIs : cache.describePhase with
    | pending => exact absurd phaseIs broken.failed.described
    | initialized => exact ⟨.occur, phaseIs, trivial⟩
    | occurred => exact absurd phaseIs early

theorem Sound.weight_le (sound : Sound size cache) {request : ReadAtRequest}
    (asked : cache.inProgress = some request) :
    cache.weight ≤ 4 * request.originalBytesToRead + 3 := by
  rcases sound.phase with inv | broken
  · have light := @Inv.weight_le _ _ inv (request.mapBytes fun _ => 0)
      (by simp [blanked, inProgress_mapBytes, asked])
    rw [blanked, weight_mapBytes] at light
    exact light
  · have waiting := broken.inProgress.symm.trans asked
    have early := (broken.waiting request waiting).1
    cases phaseIs : cache.describePhase with
    | pending => simp [weight, phaseIs, waiting]
    | initialized => simp [weight, phaseIs, waiting]
    | occurred => exact absurd phaseIs early

-- In every run, each call of `ReadAt` is answered once, with bytes or with an error, exactly when
-- no request starts before all of the regions and no error comes in between the pieces of a
-- request. A request in progress is then completed in a number of steps that its size bounds.
theorem callbacks_answered_iff (size : Nat) (nonempty : 0 < size) (fits : size < 2 ^ 64)
    (events : List Event) (offered : Meets step (Offered size) { } events) :
    (Meets step Answers { } events ↔ Meets step Unbroken { } events) ∧
      (Meets step Unbroken { } events → ∃ cache, run step { } events = some cache ∧
        Answered cache ∧
        ∀ request, cache.inProgress = some request →
          (∃ event, Offered size cache event ∧ Unbroken cache event) ∧
          ∀ later, Meets step (fun cache event => Offered size cache event ∧
              Unbroken cache event) cache later →
            4 * request.originalBytesToRead + 3 < later.length →
            ∃ early final, early <+: later ∧ run step cache early = some final ∧
              cache.completions.length < final.completions.length) := by
  have progress (cache : ReaderCache) (event : Event) (sound : Sound size cache)
      (guard : Offered size cache event ∧ Unbroken cache event) :=
    sound.step_spec nonempty fits event guard
  constructor
  · have same := meets_congr step
      (fun cache event => Offered size cache event ∧ Answers cache event)
      (fun cache event => Offered size cache event ∧ Unbroken cache event) (Sound size)
      (by
        intro cache event sound
        refine and_congr_right fun offered => ⟨sound.unbroken_of_answers offered, ?_⟩
        intro unbroken
        obtain ⟨next, taken, kept, -⟩ := progress cache event sound ⟨offered, unbroken⟩
        exact ⟨next, taken, kept.answered⟩)
      (by
        intro cache event next sound guard taken
        obtain ⟨other, same, kept, -⟩ := progress cache event sound guard
        obtain rfl := Option.some.inj (taken.symm.trans same)
        exact kept)
      { } events (sound_start size)
    rw [meets_and, meets_and] at same
    exact ⟨fun answers => (same.mp ⟨offered, answers⟩).2,
      fun unbroken => (same.mpr ⟨offered, unbroken⟩).2⟩
  · intro unbroken
    obtain ⟨cache, reached, sound⟩ := run_of_step step
      (fun cache event => Offered size cache event ∧ Unbroken cache event) (Sound size)
      (fun cache event sound guard => by
        obtain ⟨next, taken, kept, -⟩ := progress cache event sound guard
        exact ⟨next, taken, kept⟩)
      { } events (sound_start size) ((meets_and _ _ _ _ _).mpr ⟨offered, unbroken⟩)
    refine ⟨cache, reached, sound.answered, ?_⟩
    intro request asked
    have inProgress : cache.inProgress ≠ none := by simp [asked]
    refine ⟨sound.exists_offered inProgress, ?_⟩
    intro later meetsLater enough
    exact completes_within _ (Sound size) progress later cache sound inProgress meetsLater
      (Nat.lt_of_le_of_lt (sound.weight_le asked) enough)

instance decidableOffered (size : Nat) (cache : ReaderCache) :
    (event : Event) → Decidable (Offered size cache event)
  | .describe _ _ _ => inferInstanceAs (Decidable (_ ∧ (_ → _)))
  | .occur => inferInstanceAs (Decidable (_ = _))
  | .start => inferInstanceAs (Decidable (_ ∧ _ ∧ _))
  | .readAt _ _ => inferInstanceAs (Decidable (_ ∧ _ ∧ _ ∧ _))
  | .intakeComplete _ bytes =>
    decidable_of_iff (cache.intake.count = some bytes.length) (cache.intake.count_eq bytes.length)
  | .continueIntake => inferInstanceAs (Decidable (_ = _))

instance decidableUnbroken (cache : ReaderCache) :
    (event : Event) → Decidable (Unbroken cache event)
  | .readAt _ _ => inferInstanceAs (Decidable (_ → _ → _))
  | .intakeComplete result _ =>
    match asked : cache.store.readRequest with
    | none => isTrue (by simp [Unbroken, asked])
    | some request =>
      decidable_of_iff
        (result ≠ .ok → request.remainingBytesToRead = request.originalBytesToRead)
        (by simp [Unbroken, asked, ReadAtRequest.Untouched])
  | .describe _ _ _ => isTrue trivial
  | .occur => isTrue trivial
  | .start => isTrue trivial
  | .continueIntake => isTrue trivial

def middleFirst : List Event :=
  [.readAt 1 1, .describe .ok 3 true, .occur, .start, .intakeComplete .ok [20], .readAt 1 2,
    .continueIntake]

theorem middle_first_answered : Meets step Answers { } middleFirst :=
  (callbacks_answered_iff 3 (by decide) (by decide) middleFirst (by decide +kernel)).1.mpr
    (by decide +kernel)

theorem error_after_first_byte :
    Meets step (Offered 3) { } (middleFirst ++ [.intakeComplete .unknownError [0]]) ∧
      (run step { } (middleFirst ++ [.intakeComplete .unknownError [0]])).map completions =
        some [⟨1, 1, .ok, 1, [20]⟩, ⟨1, 2, .unknownError, 1, [20]⟩] ∧
      ¬ Completion.Consistent ⟨1, 2, .unknownError, 1, [20]⟩ := by
  decide +kernel

end ReaderCache

end MojoMedia
