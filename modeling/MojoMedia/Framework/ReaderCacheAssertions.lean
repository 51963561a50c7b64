import MojoMedia.Framework.ReaderCacheDelivery
import MojoMedia.Framework.SparseByteBufferSearch

set_option autoImplicit false

namespace MojoMedia

open OrderedMap Extents MachineInt Runs SparseByteBuffer

structure Store.Admits (store : Store) (position count : Nat) : Prop where
  atPosition : store.intakeHole = some position
  longEnough : ∃ size, store.buffer.holes.get? position = some size ∧ count ≤ size

theorem SparseByteBuffer.Partition.longEnough_iff {buffer next : SparseByteBuffer}
    (partition : buffer.Partition) {position count size asked : Nat} {hint hole : Hole}
    (there : buffer.holes.get? position = some size) (few : count ≤ size)
    (valid : buffer.CurrentHole hint) (inHole : buffer.InHole asked)
    (created : buffer.findOrCreateHole asked hint = some (hole, next)) :
    (∃ left, next.holes.get? position = some left ∧ count ≤ left) ↔
      ¬ (position < asked ∧ asked < position + count) := by
  obtain ⟨key, keySize, isKey, lower, upper⟩ := inHole
  simp only [id] at upper
  rw [partition.findOrCreateHole_eq isKey lower upper valid] at created
  obtain ⟨-, rfl⟩ := Prod.mk.inj (Option.some.inj created)
  simp only [get?_cutAt isKey lower upper]
  have holds := partition.holes.holds_key there
  by_cases start : position = asked
  · subst start
    obtain rfl := partition.holes.unique holds ⟨keySize, isKey, lower, upper⟩
    obtain rfl := Option.some.inj (there.symm.trans isKey)
    simp
    omega
  · rw [if_neg start]
    by_cases cut : position = key
    · subst cut
      simp
      omega
    · rw [if_neg cut, there]
      have outside : ¬ (position < asked ∧ asked < position + count) := by
        rintro ⟨after, before⟩
        exact cut (partition.holes.unique ⟨size, there, by omega, by simp only [id]; omega⟩
          ⟨keySize, isKey, lower, upper⟩)
      simp [few, outside]

namespace Store

variable {asset : List UInt8} {store next : Store} {request left : ReadAtRequest}

structure Serves (store : Store) (done : Bool) (next : Store) : Prop where
  sameHole : next.intakeHole = store.intakeHole
  forwards : store.readRequestPosition ≤ next.readRequestPosition
  copied : ∀ position, store.readRequestPosition ≤ position →
    position < next.readRequestPosition → store.buffer.InRegion position
  finished : done = true → next.buffer = store.buffer
  asking : done = false → ∃ hole,
    store.buffer.findOrCreateHole next.readRequestPosition store.intakeHole =
      some (hole, next.buffer)

theorem serves_finished (store : Store) : Serves store true store :=
  ⟨rfl, Nat.le_refl _, fun _ _ _ => by omega, fun _ => rfl, by simp⟩

theorem serves_asking (asked : store.askIntake = some next) : Serves store false next := by
  simp only [askIntake, Option.bind_eq_bind, Option.bind_eq_some_iff] at asked
  obtain ⟨⟨hole, buffer⟩, created, same⟩ := asked
  obtain rfl := Option.some.inj same
  exact ⟨rfl, Nat.le_refl _, fun _ _ _ => by simp only at *; omega, by simp,
    fun _ => ⟨hole, created⟩⟩

theorem bytesAt_some {key position count : Nat} {bytes source : List UInt8}
    (copied : bytesAt key bytes position count = some source) :
    key ≤ position ∧ position + count ≤ key + bytes.length := by
  unfold bytesAt at copied
  split at copied
  next inside => omega
  next => cases copied

theorem serveLoop_serves (fuel : Nat) (store : Store) (request : ReadAtRequest) {done : Bool}
    {next : Store} {left : ReadAtRequest}
    (ran : serveLoop fuel store request = some (done, next, left)) : Serves store done next := by
  induction fuel generalizing store request with
  | zero =>
    rw [serveLoop] at ran
    split at ran
    next =>
      obtain ⟨rfl, rfl, -⟩ := by simpa using ran
      exact serves_finished store
    next => cases ran
  | succ fuel ih =>
    rw [serveLoop] at ran
    split at ran
    next =>
      obtain ⟨rfl, rfl, -⟩ := by simpa using ran
      exact serves_finished store
    next =>
      simp only [Option.bind_eq_bind, Option.bind_eq_some_iff] at ran
      obtain ⟨region, -, ran⟩ := ran
      cases region with
      | none =>
        obtain ⟨asking, asked, same⟩ := Option.bind_eq_some_iff.mp ran
        obtain ⟨rfl, rfl, -⟩ := by simpa using same
        exact serves_asking asked
      | some key =>
        simp only [Option.bind_eq_some_iff] at ran
        obtain ⟨bytes, there, source, copied, later⟩ := ran
        have inRegion := bytesAt_some copied
        obtain ⟨sameHole, forwards, further, finished, asking⟩ := ih _ _ later
        simp only [advance] at forwards further
        refine ⟨sameHole, by omega, ?_, finished, asking⟩
        intro position lower upper
        by_cases here : position < store.readRequestPosition +
            min (subU64 (key + bytes.length) store.readRequestPosition)
              store.readRequestRemainingBytes
        · exact ⟨key, bytes, there, by omega, by omega⟩
        · exact further position (by omega) upper

theorem Serves.admits_iff {done : Bool} (serves : Serves store done next)
    (partition : store.buffer.Partition) {position count : Nat} (positive : 0 < count)
    (admits : store.Admits position count)
    (inHole : done = false → store.buffer.InHole next.readRequestPosition)
    (missing : done = true → store.buffer.InRegion store.readRequestPosition) :
    next.Admits position count ↔ ¬ (position < store.readRequestPosition ∧
      store.readRequestPosition < position + count) := by
  obtain ⟨atPosition, size, there, few⟩ := admits
  have free (other : Nat) (lower : position ≤ other) (upper : other < position + count) :
      ¬ store.buffer.InRegion other :=
    partition.exclusive other ⟨position, size, there, lower, by simp only [id]; omega⟩
  have same : next.Admits position count ↔
      ∃ left, next.buffer.holes.get? position = some left ∧ count ≤ left :=
    ⟨fun admits => admits.longEnough, fun enough => ⟨serves.sameHole.trans atPosition, enough⟩⟩
  rw [same]
  cases done with
  | true =>
    rw [serves.finished rfl]
    refine iff_of_true ⟨size, there, few⟩ ?_
    rintro ⟨lower, upper⟩
    exact free _ (by omega) upper (missing rfl)
  | false =>
    obtain ⟨hole, created⟩ := serves.asking rfl
    have valid : store.buffer.CurrentHole store.intakeHole := by
      intro key isKey
      obtain rfl := Option.some.inj (atPosition.symm.trans isKey)
      exact ⟨size, there⟩
    rw [partition.longEnough_iff there few valid (inHole rfl) created]
    have forwards := serves.forwards
    -- What is copied before the hole is cut lies outside of the range.
    constructor
    · rintro outside ⟨lower, upper⟩
      rcases Nat.lt_or_eq_of_le forwards with further | stays
      · exact free _ (by omega) upper (serves.copied _ (Nat.le_refl _) further)
      · omega
    · rintro outside ⟨lower, upper⟩
      by_cases before : store.readRequestPosition ≤ position
      · exact free position (Nat.le_refl _) (by omega) (serves.copied position before lower)
      · refine outside ⟨by omega, by omega⟩

theorem setReadAtRequest_admits {position bytesToRead start count : Nat}
    {outcome : Store × Option Completion} (running : store.Running asset (.reading start count))
    (inside : position < asset.length) (positive : 0 < bytesToRead)
    (small : position + bytesToRead < 2 ^ 64) (begun : store.buffer.Begun position)
    (ran : store.setReadAtRequest (.started position bytesToRead) = some outcome)
    (admits : store.Admits start count) :
    outcome.1.Admits start count ↔ ¬ (start < position ∧ position < start + count) := by
  have faithful := running.faithful.asking position bytesToRead
  obtain ⟨done, next, left, looped, served⟩ := serveLoop_spec _ _ _ faithful
    (asking_follows store inside positive) begun running.intakeReady.valid (Nat.le_refl _)
  have serves := serveLoop_serves _ _ _ looped
  have more : 0 < (asking asset store position bytesToRead).readRequestRemainingBytes := by
    simp only [asking]
    omega
  have kept : outcome.1.Admits start count ↔ next.Admits start count := by
    rw [running.faithful.setReadAtRequest_eq inside small, serveRequest] at ran
    simp only [show (asking asset store position bytesToRead).readRequest = some _ from rfl, looped,
      Option.bind_eq_bind, Option.bind_some] at ran
    split at ran
    next =>
      obtain rfl := Option.some.inj ran
      exact ⟨fun admits => ⟨admits.1, admits.2⟩, fun admits => ⟨admits.1, admits.2⟩⟩
    next =>
      obtain rfl := Option.some.inj ran
      exact ⟨fun admits => ⟨admits.1, admits.2⟩, fun admits => ⟨admits.1, admits.2⟩⟩
  rw [kept]
  refine serves.admits_iff faithful.partition running.intakeReady.1 ⟨admits.1, admits.2⟩ ?_ ?_
  · intro waits
    exact (served.refines.inHole _).mp (served.asking waits).2.1
  · exact fun finished => served.cached finished more

theorem setReadAtRequest_not_begun {position bytesToRead : Nat} (faithful : store.Faithful asset)
    (inside : position < asset.length) (positive : 0 < bytesToRead)
    (small : position + bytesToRead < 2 ^ 64) (notBegun : ¬ store.buffer.Begun position) :
    store.setReadAtRequest (.started position bytesToRead) = none := by
  obtain ⟨key, found, later⟩ := searchRegion_not_begun notBegun
  rw [← faithful.partition.findRegionContaining_eq faithful.hint] at found
  rw [faithful.setReadAtRequest_eq inside small]
  obtain ⟨rest, more⟩ : ∃ rest, min (position + bytesToRead) asset.length - position = rest + 1 :=
    ⟨min (position + bytesToRead) asset.length - position - 1, by omega⟩
  have nothing (bytes : List UInt8) (count : Nat) : bytesAt key bytes position count = none := by
    rw [bytesAt, if_neg (by omega)]
  simp [serveRequest, asking, more, serveLoop, faithful.ok, found, nothing]

theorem serveRequest_failed {outcome : Store × Option Completion} (failed : store.result ≠ .ok)
    (ran : store.serveRequest = some outcome) : outcome.1.result = store.result := by
  have looped (fuel : Nat) (request : ReadAtRequest) :
      serveLoop fuel store request = some (true, store, request) := by
    cases fuel <;> rw [serveLoop, if_pos (.inl failed)]
  simp only [serveRequest, Option.bind_eq_bind, looped, Option.bind_some, if_true] at ran
  obtain ⟨request, -, same⟩ := Option.bind_eq_some_iff.mp ran
  obtain rfl := Option.some.inj same
  rfl

theorem setReadAtRequest_failed {outcome : Store × Option Completion}
    (failed : store.result ≠ .ok) (ran : store.setReadAtRequest request = some outcome) :
    outcome.1.result = store.result := by
  have kept := serveRequest_failed (by exact failed) ran
  exact kept

theorem reportIntakeError_failed {outcome : Store × Option Completion} {result : Result}
    (failed : result ≠ .ok) (ran : store.reportIntakeError result = some outcome) :
    outcome.1.result = result := by
  unfold reportIntakeError serveIfAsked at ran
  split at ran
  next =>
    have kept := serveRequest_failed (by exact failed) ran
    exact kept
  next =>
    obtain rfl := Option.some.inj ran
    rfl

end Store

namespace ReaderCache

-- Whatever the upstream reader does, `PutIntakeBuffer` is called in such a state only.
def ChecksHold (cache : ReaderCache) : Prop :=
  ∀ position count, cache.intake = .reading position count → cache.store.Admits position count

def ChecksAfter (cache : ReaderCache) (event : Event) : Prop :=
  ∀ next, step cache event = some next → next.ChecksHold

-- The asset has the size it is described with, requests are for bytes of the asset, and data that
-- is delivered is the asset's. Any call may fail.
def Permitted (asset : List UInt8) (cache : ReaderCache) : Event → Prop
  | .describe result size _ => result = .ok → size = asset.length
  | .readAt position bytesToRead =>
    position < asset.length ∧ 0 < bytesToRead ∧ position + bytesToRead < 2 ^ 64
  | .intakeComplete result bytes => result = .ok → ∀ position size,
      cache.intake = .reading position size → bytes = slice asset position size
  | _ => True

def OutsideFlight (cache : ReaderCache) : Event → Prop
  | .readAt position _ => cache.inProgress = none → cache.store.buffer.Begun position →
      ∀ start count, cache.intake = .reading start count →
        ¬ (start < position ∧ position < start + count)
  | _ => True

structure Failed (cache : ReaderCache) : Prop where
  failed : cache.store.result ≠ .ok
  described : cache.describePhase ≠ .pending
  quiet : cache.intake = .stopped ∨ cache.intake = .idle ∧ cache.describeResult ≠ .ok

variable {asset : List UInt8} {cache next : ReaderCache}

theorem Failed.checksHold (failed : Failed cache) : cache.ChecksHold := by
  intro position count reading
  rcases failed.quiet with stopped | ⟨idle, -⟩
  · cases stopped.symm.trans reading
  · cases idle.symm.trans reading

theorem step_failed (failed : Failed cache) {event : Event} (taken : step cache event = some next) :
    Failed next := by
  have ⟨bad, described, quiet⟩ := failed
  cases event with
  | describe result size canSeek => simp [step, described] at taken
  | occur =>
    simp only [step, Option.ite_none_right_eq_some, occur] at taken
    obtain ⟨-, taken⟩ := taken
    split at taken
    next =>
      obtain rfl := Option.some.inj taken
      exact ⟨bad, by simp, quiet⟩
    next =>
      obtain ⟨outcome, ran, same⟩ := Option.bind_eq_some_iff.mp taken
      obtain rfl := Option.some.inj same
      refine ⟨?_, by simp [served], quiet⟩
      rw [served, Store.setReadAtRequest_failed bad ran]
      exact bad
  | start =>
    simp only [step, Option.ite_none_right_eq_some] at taken
    obtain ⟨⟨-, ok, idle⟩, -⟩ := taken
    rcases quiet with stopped | ⟨-, wrong⟩
    · cases stopped.symm.trans idle
    · exact absurd ok wrong
  | readAt position bytesToRead =>
    simp only [step, Option.ite_none_right_eq_some, readAt] at taken
    obtain ⟨-, taken⟩ := taken
    split at taken
    next =>
      obtain ⟨outcome, ran, same⟩ := Option.bind_eq_some_iff.mp taken
      obtain rfl := Option.some.inj same
      refine ⟨?_, described, quiet⟩
      rw [served, Store.setReadAtRequest_failed bad ran]
      exact bad
    next =>
      obtain rfl := Option.some.inj taken
      exact ⟨bad, described, quiet⟩
  | intakeComplete result bytes =>
    rcases quiet with stopped | ⟨idle, -⟩
    · simp [step, stopped] at taken
    · simp [step, idle] at taken
  | continueIntake =>
    rcases quiet with stopped | ⟨idle, -⟩
    · simp [step, stopped] at taken
    · simp [step, idle] at taken

theorem Inv.running (inv : Inv asset cache) (occurred : cache.describePhase = .occurred) :
    cache.store.Running asset cache.intake := by
  have phase := inv.phase
  rw [occurred] at phase
  exact phase.2.2

theorem continueIntake_checks (taken : cache.continueIntake = some next) : next.ChecksHold := by
  simp only [continueIntake, Store.getIntakePositionAndSize, Option.bind_eq_bind] at taken
  obtain ⟨⟨found, store⟩, got, same⟩ := Option.bind_eq_some_iff.mp taken
  split at got
  next key hole =>
    obtain ⟨holeSize, there, same'⟩ := Option.bind_eq_some_iff.mp got
    obtain ⟨rfl, rfl⟩ := Prod.mk.inj (Option.some.inj same')
    obtain rfl := Option.some.inj same
    rintro position count ⟨⟩
    exact ⟨rfl, holeSize, there, Nat.min_le_right _ _⟩
  next key none hole =>
    obtain ⟨holeSize, there, same'⟩ := Option.bind_eq_some_iff.mp got
    obtain ⟨rfl, rfl⟩ := Prod.mk.inj (Option.some.inj same')
    obtain rfl := Option.some.inj same
    rintro position count ⟨⟩
    exact ⟨hole, holeSize, there, Nat.min_le_right _ _⟩
  next =>
    obtain ⟨rfl, rfl⟩ := Prod.mk.inj (Option.some.inj got)
    obtain rfl := Option.some.inj same
    intro position count reading
    cases reading

theorem step_inv_or_failed (nonempty : 0 < asset.length) (fits : asset.length < 2 ^ 64)
    (inv : Inv asset cache) {event : Event} (permitted : Permitted asset cache event)
    (taken : step cache event = some next) : Inv asset next ∨ Failed next := by
  cases event with
  | describe result size canSeek =>
    simp only [step, Option.ite_none_right_eq_some] at taken
    obtain ⟨pending, taken⟩ := taken
    by_cases ok : result = .ok
    · subst ok
      obtain rfl := permitted rfl
      obtain ⟨also, same, after, -⟩ := describe_spec inv pending nonempty fits canSeek
      obtain rfl := Option.some.inj (taken.symm.trans same)
      exact .inl after
    · have phase := inv.phase
      rw [pending] at phase
      simp only [describe, Store.initialized, Option.bind_eq_bind] at taken
      obtain ⟨store, made, same⟩ := Option.bind_eq_some_iff.mp taken
      obtain rfl := Option.some.inj same
      obtain ⟨hole, -, same⟩ := Option.bind_eq_some_iff.mp made
      obtain rfl := Option.some.inj same
      exact .inr ⟨ok, by simp, .inr ⟨phase.2.1, ok⟩⟩
  | occur =>
    simp only [step, Option.ite_none_right_eq_some] at taken
    obtain ⟨also, same, after, -⟩ := occur_spec inv taken.1
    obtain rfl := Option.some.inj (taken.2.symm.trans same)
    exact .inl after
  | start =>
    simp only [step, Option.ite_none_right_eq_some] at taken
    obtain ⟨⟨occurred, -, idle⟩, taken⟩ := taken
    obtain ⟨also, same, after, -⟩ := continueIntake_spec inv occurred (.inl idle)
    obtain rfl := Option.some.inj (taken.symm.trans same)
    exact .inl after
  | readAt position bytesToRead =>
    simp only [step, Option.ite_none_right_eq_some] at taken
    obtain ⟨free, taken⟩ := taken
    obtain ⟨inside, positive, small⟩ := permitted
    have begun (occurred : cache.describePhase = .occurred) :
        cache.store.buffer.Begun position := by
      by_contra notBegun
      have stuck := Store.setReadAtRequest_not_begun (inv.running occurred).faithful inside
        positive small notBegun
      simp [readAt, occurred, stuck] at taken
    obtain ⟨also, same, after, -⟩ := readAt_spec inv free inside positive small begun
    obtain rfl := Option.some.inj (taken.symm.trans same)
    exact .inl after
  | intakeComplete result bytes =>
    simp only [step] at taken
    split at taken
    next position size reading =>
      obtain ⟨length, taken⟩ := (Option.ite_none_right_eq_some).mp taken
      have occurred := inv.occurred_of_intake (by simp [reading])
      by_cases ok : result = .ok
      · subst ok
        obtain rfl := permitted rfl position size reading
        obtain ⟨also, same, after, -⟩ := intakeComplete_spec inv occurred reading
        obtain rfl := Option.some.inj (taken.symm.trans same)
        exact .inl after
      · simp only [intakeComplete, if_neg ok] at taken
        obtain ⟨outcome, ran, same⟩ := Option.bind_eq_some_iff.mp taken
        obtain rfl := Option.some.inj same
        refine .inr ⟨?_, ?_, .inl rfl⟩
        · rw [served, Store.reportIntakeError_failed ok ran]
          exact ok
        · simp [served, occurred]
    next => cases taken
  | continueIntake =>
    simp only [step, Option.ite_none_right_eq_some] at taken
    obtain ⟨delivered, taken⟩ := taken
    obtain ⟨also, same, after, -⟩ :=
      continueIntake_spec inv (inv.occurred_of_intake (by simp [delivered])) (.inr delivered)
    obtain rfl := Option.some.inj (taken.symm.trans same)
    exact .inl after

theorem describe_intake {result : Result} {size : Nat} {canSeek : Bool}
    (taken : cache.describe result size canSeek = some next) : next.intake = cache.intake := by
  simp only [describe, Option.bind_eq_bind] at taken
  obtain ⟨store, -, same⟩ := Option.bind_eq_some_iff.mp taken
  obtain rfl := Option.some.inj same
  rfl

theorem occur_intake (taken : cache.occur = some next) : next.intake = cache.intake := by
  simp only [occur] at taken
  split at taken
  next =>
    obtain rfl := Option.some.inj taken
    rfl
  next =>
    obtain ⟨outcome, -, same⟩ := Option.bind_eq_some_iff.mp taken
    obtain rfl := Option.some.inj same
    rfl

theorem intakeComplete_intake {position : Nat} {result : Result} {bytes : List UInt8}
    (taken : cache.intakeComplete position result bytes = some next) :
    next.intake = .delivered ∨ next.intake = .stopped := by
  unfold intakeComplete at taken
  split at taken
  next =>
    obtain ⟨outcome, -, same⟩ := Option.bind_eq_some_iff.mp taken
    obtain rfl := Option.some.inj same
    exact .inl rfl
  next =>
    obtain ⟨outcome, -, same⟩ := Option.bind_eq_some_iff.mp taken
    obtain rfl := Option.some.inj same
    exact .inr rfl

theorem readAt_intake {position bytesToRead : Nat}
    (taken : cache.readAt position bytesToRead = some next) : next.intake = cache.intake := by
  simp only [readAt] at taken
  split at taken
  next =>
    obtain ⟨outcome, -, same⟩ := Option.bind_eq_some_iff.mp taken
    obtain rfl := Option.some.inj same
    rfl
  next =>
    obtain rfl := Option.some.inj taken
    rfl

theorem readAt_checks_iff (inv : Inv asset cache) (holds : cache.ChecksHold)
    {position bytesToRead start count : Nat} (free : cache.inProgress = none)
    (permitted : Permitted asset cache (.readAt position bytesToRead))
    (reading : cache.intake = .reading start count) :
    (∀ next, cache.readAt position bytesToRead = some next → next.ChecksHold) ↔
      (cache.store.buffer.Begun position → ¬ (start < position ∧ position < start + count)) := by
  obtain ⟨inside, positive, small⟩ := permitted
  have occurred := inv.occurred_of_intake (by simp [reading])
  have running := inv.running occurred
  rw [reading] at running
  have admits := holds start count reading
  have answer : cache.readAt position bytesToRead =
      (cache.store.setReadAtRequest (.started position bytesToRead)).bind fun outcome =>
        some (served { cache with requests := cache.requests ++ [(position, bytesToRead)] }
          outcome) := by
    simp only [readAt]
    rw [if_pos occurred]
    rfl
  rw [answer]
  constructor
  · intro checks begun
    obtain ⟨outcome, ran, -⟩ := Store.setReadAtRequest_running running
      (Option.or_eq_none_iff.mp free).2 inside positive small begun
    have kept := checks _ (Option.bind_eq_some_iff.mpr ⟨outcome, ran, rfl⟩)
    exact (Store.setReadAtRequest_admits running inside positive small begun ran admits).mp
      (kept start count reading)
  · intro outside next taken
    obtain ⟨outcome, ran, same⟩ := Option.bind_eq_some_iff.mp taken
    obtain rfl := Option.some.inj same
    have begun : cache.store.buffer.Begun position := by
      by_contra notBegun
      have stuck := Store.setReadAtRequest_not_begun running.faithful inside positive small notBegun
      cases ran.symm.trans stuck
    intro other size isReading
    obtain ⟨rfl, rfl⟩ := Intake.reading.inj (reading.symm.trans isReading)
    exact (Store.setReadAtRequest_admits running inside positive small begun ran admits).mpr
      (outside begun)

theorem checksHold_of_intake (quiet : ∀ start count, cache.intake ≠ .reading start count)
    (same : next.intake = cache.intake) : next.ChecksHold :=
  fun start count reading => absurd (same.symm.trans reading) (quiet start count)

theorem Inv.idle (inv : Inv asset cache) (early : cache.describePhase ≠ .occurred) :
    ∀ start count, cache.intake ≠ .reading start count := by
  intro start count reading
  exact early (inv.occurred_of_intake (by simp [reading]))

theorem checksAfter_iff (inv : Inv asset cache ∨ Failed cache) (holds : cache.ChecksHold)
    (event : Event) (permitted : Permitted asset cache event) :
    ChecksAfter cache event ↔ OutsideFlight cache event := by
  rcases inv with inv | failed
  swap
  · refine iff_of_true (fun next taken => (step_failed failed taken).checksHold) ?_
    cases event with
    | readAt position bytesToRead =>
      intro _ _ start count reading
      rcases failed.quiet with stopped | ⟨idle, -⟩
      · cases stopped.symm.trans reading
      · cases idle.symm.trans reading
    | _ => trivial
  cases event with
  | describe result size canSeek =>
    refine iff_of_true (fun next taken => ?_) trivial
    simp only [step, Option.ite_none_right_eq_some] at taken
    exact checksHold_of_intake (inv.idle (by simp [taken.1])) (describe_intake taken.2)
  | occur =>
    refine iff_of_true (fun next taken => ?_) trivial
    simp only [step, Option.ite_none_right_eq_some] at taken
    exact checksHold_of_intake (inv.idle (by simp [taken.1])) (occur_intake taken.2)
  | start =>
    refine iff_of_true (fun next taken => ?_) trivial
    simp only [step, Option.ite_none_right_eq_some] at taken
    exact continueIntake_checks taken.2
  | readAt position bytesToRead =>
    simp only [ChecksAfter, step, Option.ite_none_right_eq_some, OutsideFlight]
    by_cases free : cache.inProgress = none
    swap
    · simp [free]
    simp only [free, true_and, forall_const]
    by_cases reading : ∃ start count, cache.intake = .reading start count
    · obtain ⟨start, count, reading⟩ := reading
      rw [readAt_checks_iff inv holds free permitted reading]
      simp [reading]
    · have quiet (start count : Nat) : cache.intake ≠ .reading start count :=
        fun now => reading ⟨start, count, now⟩
      refine iff_of_true (fun next taken => checksHold_of_intake quiet (readAt_intake taken)) ?_
      exact fun _ start count now => absurd now (quiet start count)
  | intakeComplete result bytes =>
    refine iff_of_true (fun next taken => ?_) trivial
    simp only [step] at taken
    split at taken
    next =>
      intro start count reading
      rcases intakeComplete_intake ((Option.ite_none_right_eq_some).mp taken).2 with other | other
      · cases other.symm.trans reading
      · cases other.symm.trans reading
    next => cases taken
  | continueIntake =>
    refine iff_of_true (fun next taken => ?_) trivial
    simp only [step, Option.ite_none_right_eq_some] at taken
    exact continueIntake_checks taken.2

-- In every run, the checks of `PutIntakeBuffer` hold whenever the intake reads exactly when no
-- request that finds its region is for a position inside of the range that is being read.
theorem intake_checks_iff_outside_flight (asset : List UInt8) (nonempty : 0 < asset.length)
    (fits : asset.length < 2 ^ 64) (events : List Event)
    (permitted : Meets step (Permitted asset) { } events) :
    Meets step ChecksAfter { } events ↔ Meets step OutsideFlight { } events := by
  have same := meets_congr step
    (fun cache event => Permitted asset cache event ∧ ChecksAfter cache event)
    (fun cache event => Permitted asset cache event ∧ OutsideFlight cache event)
    (fun cache => (Inv asset cache ∨ Failed cache) ∧ cache.ChecksHold)
    (fun cache event sound => and_congr_right (checksAfter_iff sound.1 sound.2 event))
    (by
      rintro cache event next ⟨inv | failed, holds⟩ ⟨permitted, outside⟩ taken
      · refine ⟨step_inv_or_failed nonempty fits inv permitted taken, ?_⟩
        exact (checksAfter_iff (.inl inv) holds event permitted).mpr outside next taken
      · exact ⟨.inr (step_failed failed taken), (step_failed failed taken).checksHold⟩)
    { } events ⟨.inl inv_start, nofun⟩
  rw [meets_and, meets_and] at same
  constructor
  · exact fun checks => (same.mp ⟨permitted, checks⟩).2
  · exact fun outside => (same.mpr ⟨permitted, outside⟩).2

theorem intake_checks_start :
    Meets step ChecksAfter { } [.describe .ok 3 true, .occur, .start, .readAt 0 1] := by
  refine (intake_checks_iff_outside_flight [10, 20, 30] (by decide) (by decide) _ ?_).mpr ?_
  · refine ⟨fun _ => rfl, fun _ _ => ⟨trivial, fun _ _ => ⟨trivial, fun _ _ => ⟨?_, ?_⟩⟩⟩⟩
    · exact ⟨by decide, by decide, by decide⟩
    · exact fun _ _ => trivial
  · refine ⟨trivial, fun _ _ => ⟨trivial, fun _ _ => ⟨trivial, fun _ _ => ⟨?_, ?_⟩⟩⟩⟩
    · exact fun _ _ start count _ inside => absurd inside.1 (Nat.not_lt_zero start)
    · exact fun _ _ => trivial

theorem request_cuts_intake_hole :
    Meets step (Permitted [10, 20, 30]) { }
        [.describe .ok 3 true, .occur, .start, .readAt 1 1] ∧
      ∃ cache, run step { } [.describe .ok 3 true, .occur, .start, .readAt 1 1] = some cache ∧
        cache.intake = .reading 0 3 ∧ cache.store.buffer.holes.get? 0 = some 1 ∧
        ¬ cache.ChecksHold := by
  refine ⟨⟨fun _ => rfl, fun _ _ => ⟨trivial, fun _ _ => ⟨trivial, fun _ _ => ⟨?_, ?_⟩⟩⟩⟩,
    _, rfl, rfl, rfl, ?_⟩
  · exact ⟨by decide, by decide, by decide⟩
  · exact fun _ _ => trivial
  · intro holds
    obtain ⟨size, there, enough⟩ := (holds 0 3 rfl).longEnough
    obtain rfl : 1 = size := Option.some.inj there
    exact absurd enough (by decide)

end ReaderCache

end MojoMedia
