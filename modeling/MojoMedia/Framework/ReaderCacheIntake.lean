import MojoMedia.Framework.ReaderCacheCallbacks

set_option autoImplicit false

namespace MojoMedia

open OrderedMap Extents MachineInt Runs SparseByteBuffer

def SparseByteBuffer.Stores (buffer : SparseByteBuffer) (position : Nat) (byte : UInt8) : Prop :=
  ∃ key bytes, buffer.regions.get? key = some bytes ∧ key ≤ position ∧
    bytes[position - key]? = some byte

theorem SparseByteBuffer.findOrCreateHole_regions {buffer next : SparseByteBuffer}
    {position : Nat} {hint hole : Hole}
    (created : buffer.findOrCreateHole position hint = some (hole, next)) :
    next.regions = buffer.regions := by
  simp only [findOrCreateHole, Option.bind_eq_bind, Option.bind_eq_some_iff] at created
  obtain ⟨key, -, size, -, same⟩ := created
  split at same
  next =>
    obtain ⟨-, rfl⟩ := Prod.mk.inj (Option.some.inj same)
    rfl
  next =>
    obtain ⟨-, rfl⟩ := Prod.mk.inj (Option.some.inj same)
    rfl

namespace Store

variable {store next : Store} {outcome : Store × Option Completion}

theorem Serves.regions {done : Bool} (serves : Serves store done next) :
    next.buffer.regions = store.buffer.regions := by
  cases done with
  | true => rw [serves.finished rfl]
  | false =>
    obtain ⟨hole, created⟩ := serves.asking rfl
    exact findOrCreateHole_regions created

theorem serveRequest_regions (ran : store.serveRequest = some outcome) :
    outcome.1.buffer.regions = store.buffer.regions := by
  simp only [serveRequest, Option.bind_eq_bind, Option.bind_eq_some_iff] at ran
  obtain ⟨request, -, ⟨done, after, left⟩, looped, same⟩ := ran
  have regions := (serveLoop_serves _ _ _ looped).regions
  split at same
  next =>
    obtain rfl := Option.some.inj same
    exact regions
  next =>
    obtain rfl := Option.some.inj same
    exact regions

theorem setReadAtRequest_regions {request : ReadAtRequest}
    (ran : store.setReadAtRequest request = some outcome) :
    outcome.1.buffer.regions = store.buffer.regions := by
  have regions := serveRequest_regions ran
  exact regions

theorem setReadAtRequest_failed_buffer {request : ReadAtRequest} (failed : store.result ≠ .ok)
    (ran : store.setReadAtRequest request = some outcome) :
    outcome.1.buffer = store.buffer := by
  obtain ⟨after, completes, buffer, -⟩ := setReadAtRequest_of_failed _ request failed
  obtain rfl := Option.some.inj (ran.symm.trans completes)
  exact buffer

theorem serveIfAsked_regions (ran : store.serveIfAsked = some outcome) :
    outcome.1.buffer.regions = store.buffer.regions := by
  unfold serveIfAsked at ran
  split at ran
  next => exact serveRequest_regions ran
  next =>
    obtain rfl := Option.some.inj ran
    rfl

theorem putIntakeBuffer_regions {position : Nat} {bytes : List UInt8}
    (ran : store.putIntakeBuffer position bytes = some outcome) :
    ∃ key, store.intakeHole = some key ∧
      outcome.1.buffer.regions = store.buffer.regions.insert key bytes := by
  simp only [putIntakeBuffer, Option.bind_eq_bind, Option.bind_eq_some_iff, fill] at ran
  obtain ⟨⟨hole, buffer⟩, ⟨key, isKey, size, -, ⟨after, holes⟩, -, same⟩, served⟩ := ran
  obtain ⟨-, rfl⟩ := Prod.mk.inj (Option.some.inj same)
  have regions := serveIfAsked_regions served
  exact ⟨key, isKey, regions⟩

theorem getIntakePositionAndSize_buffer {found : Option (Nat × Nat)}
    (got : store.getIntakePositionAndSize = some (found, next)) : next.buffer = store.buffer := by
  unfold getIntakePositionAndSize at got
  split at got
  next =>
    obtain ⟨size, -, same⟩ := Option.bind_eq_some_iff.mp got
    obtain ⟨-, rfl⟩ := Prod.mk.inj (Option.some.inj same)
    rfl
  next =>
    obtain ⟨size, -, same⟩ := Option.bind_eq_some_iff.mp got
    obtain ⟨-, rfl⟩ := Prod.mk.inj (Option.some.inj same)
    rfl
  next =>
    obtain ⟨-, rfl⟩ := Prod.mk.inj (Option.some.inj got)
    rfl

end Store

namespace ReaderCache

variable {asset : List UInt8} {cache next : ReaderCache}

theorem continueIntake_buffer (taken : cache.continueIntake = some next) :
    next.store.buffer = cache.store.buffer := by
  obtain ⟨⟨found, store⟩, got, same⟩ := Option.bind_eq_some_iff.mp taken
  have buffer := Store.getIntakePositionAndSize_buffer got
  cases found with
  | none =>
    obtain rfl := Option.some.inj same
    exact buffer
  | some read =>
    obtain rfl := Option.some.inj same
    exact buffer

theorem step_regions {event : Event} (taken : step cache event = some next) :
    match event with
    | .describe _ _ _ => next.store.buffer.regions = empty
    | .intakeComplete .ok bytes => ∃ key, cache.store.intakeHole = some key ∧
        next.store.buffer.regions = cache.store.buffer.regions.insert key bytes
    | _ => next.store.buffer.regions = cache.store.buffer.regions := by
  cases event with
  | describe result size canSeek =>
    simp only [step, Option.ite_none_right_eq_some, describe, Store.initialized,
      findHole_initialized] at taken
    obtain ⟨-, taken⟩ := taken
    obtain rfl := Option.some.inj taken
    rfl
  | occur =>
    simp only [step, Option.ite_none_right_eq_some, occur] at taken
    obtain ⟨-, taken⟩ := taken
    split at taken
    next =>
      obtain rfl := Option.some.inj taken
      rfl
    next =>
      obtain ⟨outcome, ran, same⟩ := Option.bind_eq_some_iff.mp taken
      obtain rfl := Option.some.inj same
      exact Store.setReadAtRequest_regions ran
  | start =>
    simp only [step, Option.ite_none_right_eq_some] at taken
    exact congrArg _ (continueIntake_buffer taken.2)
  | readAt position bytesToRead =>
    simp only [step, Option.ite_none_right_eq_some, readAt] at taken
    obtain ⟨-, taken⟩ := taken
    split at taken
    next =>
      obtain ⟨outcome, ran, same⟩ := Option.bind_eq_some_iff.mp taken
      obtain rfl := Option.some.inj same
      exact Store.setReadAtRequest_regions ran
    next =>
      obtain rfl := Option.some.inj taken
      rfl
  | intakeComplete result bytes =>
    simp only [step] at taken
    split at taken
    next position size reading =>
      obtain ⟨-, taken⟩ := (Option.ite_none_right_eq_some).mp taken
      cases result with
      | ok =>
        simp only [intakeComplete, if_true] at taken
        obtain ⟨outcome, ran, same⟩ := Option.bind_eq_some_iff.mp taken
        obtain rfl := Option.some.inj same
        exact Store.putIntakeBuffer_regions ran
      | _ =>
        rw [intakeComplete_failed cache (by simp)] at taken
        obtain rfl := Option.some.inj taken
        rfl
    next => cases taken
  | continueIntake =>
    simp only [step, Option.ite_none_right_eq_some] at taken
    exact congrArg _ (continueIntake_buffer taken.2)

-- An event, and for one that completes a read also the count that the upstream reader reports.
-- `bytes` of such an event is the intake's buffer, of the size that was asked for.
structure Fetch where
  event : Event
  bytesRead : Nat := 0

def fetchStep (cache : ReaderCache) (fetch : Fetch) : Option ReaderCache := step cache fetch.event

-- A read that succeeds delivers the asset's bytes, at least one of them and at most as many as it
-- was asked for. The rest of the buffer may hold anything.
def Reads (asset : List UInt8) (cache : ReaderCache) (fetch : Fetch) : Prop :=
  Offered asset.length cache fetch.event ∧
    match fetch.event with
    | .intakeComplete .ok bytes => 1 ≤ fetch.bytesRead ∧ fetch.bytesRead ≤ bytes.length ∧
        ∀ position, cache.intake = .reading position bytes.length →
          bytes.take fetch.bytesRead = slice asset position fetch.bytesRead
    | _ => True

def InFull (_ : ReaderCache) (fetch : Fetch) : Prop :=
  match fetch.event with
  | .intakeComplete .ok bytes => fetch.bytesRead = bytes.length
  | _ => True

def Delivered (cache : ReaderCache) (fetch : Fetch) (position : Nat) : Prop :=
  ∃ bytes start, fetch.event = .intakeComplete .ok bytes ∧
    cache.intake = .reading start bytes.length ∧ start ≤ position ∧
    position < start + fetch.bytesRead

-- Only the asset's bytes are cached, a hole is filled only with what has been delivered, and the
-- intake does not stop while there are holes, unless something fails.
structure Honest (asset : List UInt8) (cache : ReaderCache) (fetch : Fetch)
    (next : ReaderCache) : Prop where
  stored : ∀ position byte, next.store.buffer.Stores position byte →
    asset[position]? = some byte
  missing : cache.describePhase ≠ .pending → ∀ position,
    cache.store.buffer.InHole position → ¬ Delivered cache fetch position →
    next.store.buffer.InHole position
  goesOn : next.intake = .stopped → next.store.result = .ok →
    ∀ position, ¬ next.store.buffer.InHole position

def CachesHonestly (asset : List UInt8) (cache : ReaderCache) (fetch : Fetch) : Prop :=
  ∀ next, fetchStep cache fetch = some next → Honest asset cache fetch next

def Steady (size : Nat) (cache : ReaderCache) : Prop :=
  Inv (zeros size) cache.blanked ∨ Failed cache

variable {size : Nat}

theorem blanked_faithful (inv : Inv (zeros size) cache.blanked)
    (described : cache.describePhase ≠ .pending) : cache.blanked.store.Faithful (zeros size) := by
  have phase := inv.phase
  cases phaseIs : cache.describePhase with
  | pending => exact absurd phaseIs described
  | initialized =>
    rw [show cache.blanked.describePhase = .initialized from phaseIs] at phase
    exact phase.2.2.2.1.faithful
  | occurred => exact (blanked_running inv phaseIs).2.faithful

theorem blanked_inRegion (cache : ReaderCache) (position : Nat) :
    cache.blanked.store.buffer.InRegion position ↔ cache.store.buffer.InRegion position := by
  simp [SparseByteBuffer.InRegion, Covered, Holds, blanked, mapBytes, Store.mapBytes]

theorem blanked_partition (inv : Inv (zeros size) cache.blanked)
    (described : cache.describePhase ≠ .pending) (position : Nat) :
    cache.store.buffer.InHole position ↔
      position < size ∧ ¬ cache.store.buffer.InRegion position := by
  have faithful := blanked_faithful inv described
  have total := faithful.partition.total position
  have exclusive := faithful.partition.exclusive position
  rw [faithful.bufferSize, zeros_length, blanked_inRegion] at total
  rw [blanked_inRegion] at exclusive
  constructor
  · exact fun inHole => ⟨total.mpr (.inl inHole), exclusive inHole⟩
  · exact fun ⟨inside, missing⟩ => (total.mp inside).resolve_right missing

theorem blanked_absent (inv : Inv (zeros size) cache.blanked)
    (described : cache.describePhase ≠ .pending) {position : Nat}
    (inHole : cache.store.buffer.InHole position) :
    cache.store.buffer.regions.get? position = none := by
  by_contra present
  obtain ⟨bytes, there⟩ := Option.ne_none_iff_exists'.mp present
  have faithful := blanked_faithful inv described
  have mapped : cache.blanked.store.buffer.regions.get? position =
      some (bytes.map fun _ => 0) := by
    simp [blanked, mapBytes, Store.mapBytes, there]
  have inRegion : cache.blanked.store.buffer.InRegion position :=
    ⟨position, faithful.partition.regions.holds_key mapped⟩
  exact ((blanked_partition inv described position).mp inHole).2
    ((blanked_inRegion cache position).mp inRegion)

theorem failed_buffer (failed : Failed cache) {event : Event}
    (taken : step cache event = some next) : next.store.buffer = cache.store.buffer := by
  cases event with
  | describe result described canSeek => simp [step, failed.described] at taken
  | occur =>
    simp only [step, Option.ite_none_right_eq_some, occur] at taken
    obtain ⟨-, taken⟩ := taken
    split at taken
    next =>
      obtain rfl := Option.some.inj taken
      rfl
    next =>
      obtain ⟨outcome, ran, same⟩ := Option.bind_eq_some_iff.mp taken
      obtain rfl := Option.some.inj same
      exact Store.setReadAtRequest_failed_buffer failed.failed ran
  | readAt position bytesToRead =>
    simp only [step, Option.ite_none_right_eq_some, readAt] at taken
    obtain ⟨-, taken⟩ := taken
    split at taken
    next =>
      obtain ⟨outcome, ran, same⟩ := Option.bind_eq_some_iff.mp taken
      obtain rfl := Option.some.inj same
      exact Store.setReadAtRequest_failed_buffer failed.failed ran
    next =>
      obtain rfl := Option.some.inj taken
      rfl
  | start =>
    simp only [step, Option.ite_none_right_eq_some] at taken
    exact continueIntake_buffer taken.2
  | intakeComplete result bytes =>
    rcases failed.quiet with stopped | ⟨idle, -⟩
    · simp [step, stopped] at taken
    · simp [step, idle] at taken
  | continueIntake =>
    simp only [step, Option.ite_none_right_eq_some] at taken
    exact continueIntake_buffer taken.2

theorem steady_step (nonempty : 0 < size) (fits : size < 2 ^ 64) (steady : Steady size cache)
    {event : Event} (offered : Offered size cache event) (taken : step cache event = some next) :
    Inv (zeros size) next.blanked ∨ Failed next ∧ (cache.describePhase = .pending ∨
      next.store.buffer = cache.store.buffer) := by
  rcases steady with inv | failed
  swap
  · exact .inr ⟨step_failed failed taken, .inr (failed_buffer failed taken)⟩
  have unfailing (allowed : Allowed (zeros size) cache.blanked (event.mapBytes fun _ => 0) ∧
      FindsRegion cache.blanked (event.mapBytes fun _ => 0)) : Inv (zeros size) next.blanked := by
    obtain ⟨other, same, kept, -⟩ := step_of_blanked inv nonempty fits event allowed
    obtain rfl := Option.some.inj (taken.symm.trans same)
    exact kept
  cases event with
  | describe result described canSeek =>
    have pending := offered.1
    have sized := offered.2
    by_cases ok : result = .ok
    · subst ok
      exact .inl (unfailing ⟨⟨pending, rfl, by simpa using sized rfl⟩, trivial⟩)
    · have phase := inv.phase
      rw [show cache.blanked.describePhase = .pending from pending] at phase
      simp only [step, Option.ite_none_right_eq_some, describe, Store.initialized,
        findHole_initialized] at taken
      obtain rfl := Option.some.inj taken.2
      exact .inr ⟨⟨ok, by simp, .inr ⟨phase.2.1, ok⟩⟩, .inl pending⟩
  | occur => exact .inl (unfailing ⟨offered, trivial⟩)
  | start => exact .inl (unfailing ⟨⟨offered.1, offered.2.2⟩, trivial⟩)
  | readAt position bytesToRead =>
    refine .inl (unfailing (readAt_guard inv offered ?_))
    intro occurred _
    by_contra notBegun
    exact readAt_stuck inv offered occurred notBegun taken
  | intakeComplete result bytes =>
    have started : ∃ position, cache.intake = .reading position bytes.length := offered
    obtain ⟨position, reading⟩ := started
    by_cases ok : result = .ok
    · subst ok
      exact .inl (unfailing ⟨intakeComplete_guard inv reading, trivial⟩)
    · simp only [step, reading, if_true, intakeComplete_failed cache ok] at taken
      obtain rfl := Option.some.inj taken
      refine .inr ⟨⟨ok, ?_, .inl rfl⟩, .inr rfl⟩
      simp [aborted, served, occurred_of_reading inv reading]
  | continueIntake => exact .inl (unfailing ⟨offered, trivial⟩)

structure Caught (asset : List UInt8) (cache : ReaderCache) : Prop where
  steady : Steady asset.length cache
  stored : ∀ key bytes, cache.store.buffer.regions.get? key = some bytes →
    bytes = slice asset key bytes.length

theorem stores_slice {key position : Nat} {byte : UInt8} {bytes : List UInt8}
    (copied : bytes = slice asset key bytes.length) (lower : key ≤ position)
    (there : bytes[position - key]? = some byte) : asset[position]? = some byte := by
  have inside := (List.getElem?_eq_some_iff.mp there).1
  rw [copied, slice, List.getElem?_take_of_lt inside, List.getElem?_drop,
    Nat.add_sub_cancel' lower] at there
  exact there

theorem Caught.stores (caught : Caught asset cache) {position : Nat} {byte : UInt8}
    (stores : cache.store.buffer.Stores position byte) : asset[position]? = some byte := by
  obtain ⟨key, bytes, there, lower, isByte⟩ := stores
  exact stores_slice (caught.stored key bytes there) lower isByte

theorem get?_insert_or {Value : Type} {map : OrderedMap Value} {key other : Nat}
    {value found : Value} (there : (map.insert key value).get? other = some found) :
    map.get? other = some found ∨ other = key ∧ found = value := by
  unfold OrderedMap.insert at there
  split at there
  next => exact .inl there
  next =>
    rw [get?_assign] at there
    split at there
    next same => exact .inr ⟨same, (Option.some.inj there).symm⟩
    next => exact .inl there

theorem intakeHole_of_reading (inv : Inv (zeros size) cache.blanked) {position count : Nat}
    (reading : cache.intake = .reading position count) :
    cache.store.intakeHole = some position ∧ 0 < count ∧
      ∀ other, position ≤ other → other < position + count → cache.store.buffer.InHole other := by
  have running := (blanked_running inv (occurred_of_reading inv reading)).2
  rw [reading] at running
  obtain ⟨positive, atPosition, -, free⟩ := running.intakeReady
  exact ⟨atPosition, positive, free⟩

theorem Steady.reading (steady : Steady size cache) {position count : Nat}
    (reading : cache.intake = .reading position count) : Inv (zeros size) cache.blanked := by
  rcases steady with inv | failed
  · exact inv
  · rcases failed.quiet with stopped | ⟨idle, -⟩
    · cases stopped.symm.trans reading
    · cases idle.symm.trans reading

theorem Caught.step (caught : Caught asset cache) (nonempty : 0 < asset.length)
    (fits : asset.length < 2 ^ 64) {fetch : Fetch} (reads : Reads asset cache fetch)
    (full : InFull cache fetch) (taken : fetchStep cache fetch = some next) :
    Caught asset next := by
  obtain ⟨event, bytesRead⟩ := fetch
  obtain ⟨offered, delivers⟩ := reads
  have steady := steady_step nonempty fits caught.steady offered taken
  refine ⟨steady.imp_right And.left, ?_⟩
  have regions := step_regions taken
  intro key bytes there
  cases event with
  | describe result described canSeek =>
    simp only at regions
    rw [regions, get?_empty] at there
    cases there
  | intakeComplete result delivered =>
    cases result with
    | ok =>
      obtain ⟨hole, isHole, filled⟩ := regions
      obtain ⟨position, reading⟩ := offered
      obtain ⟨atPosition, -⟩ := intakeHole_of_reading (caught.steady.reading reading) reading
      obtain rfl := Option.some.inj (atPosition.symm.trans isHole)
      rw [filled] at there
      rcases get?_insert_or there with before | ⟨rfl, rfl⟩
      · exact caught.stored key bytes before
      · have all : bytesRead = bytes.length := full
        have copied := delivers.2.2 key reading
        rw [all, List.take_length] at copied
        exact copied
    | _ =>
      simp only at regions
      rw [regions] at there
      exact caught.stored key bytes there
  | _ =>
    simp only at regions
    rw [regions] at there
    exact caught.stored key bytes there

theorem Caught.missing (caught : Caught asset cache) (nonempty : 0 < asset.length)
    (fits : asset.length < 2 ^ 64) {fetch : Fetch} (reads : Reads asset cache fetch)
    (full : InFull cache fetch) (taken : fetchStep cache fetch = some next)
    (described : cache.describePhase ≠ .pending) (position : Nat)
    (inHole : cache.store.buffer.InHole position) (absent : ¬ Delivered cache fetch position) :
    next.store.buffer.InHole position := by
  obtain ⟨event, bytesRead⟩ := fetch
  obtain ⟨offered, delivers⟩ := reads
  rcases caught.steady with inv | failed
  swap
  · rw [failed_buffer failed taken]
    exact inHole
  rcases steady_step nonempty fits (.inl inv) offered taken with after | ⟨-, early | same⟩
  rotate_left
  · exact absurd early described
  · rw [same]
    exact inHole
  obtain ⟨inside, uncached⟩ := (blanked_partition inv described position).mp inHole
  refine (blanked_partition after ((step_extends taken).described described) position).mpr
    ⟨inside, ?_⟩
  -- A region that holds the position now is the one that has been delivered.
  rintro ⟨key, bytes, there, lower, upper⟩
  have regions := step_regions taken
  cases event with
  | describe result size canSeek => exact absurd offered.1 described
  | intakeComplete result delivered =>
    cases result with
    | ok =>
      obtain ⟨hole, isHole, filled⟩ := regions
      have ⟨start, reading⟩ := offered
      obtain ⟨atStart, -⟩ := intakeHole_of_reading inv reading
      obtain rfl := Option.some.inj (atStart.symm.trans isHole)
      rw [filled] at there
      rcases get?_insert_or there with before | ⟨rfl, rfl⟩
      · exact uncached ⟨key, bytes, before, lower, upper⟩
      · have all : bytesRead = bytes.length := full
        exact absent ⟨bytes, key, rfl, reading, lower, by simp only [all]; exact upper⟩
    | _ =>
      simp only at regions
      rw [regions] at there
      exact uncached ⟨key, bytes, there, lower, upper⟩
  | _ =>
    simp only at regions
    rw [regions] at there
    exact uncached ⟨key, bytes, there, lower, upper⟩

theorem Steady.stopped (steady : Steady size cache) (stopped : cache.intake = .stopped)
    (ok : cache.store.result = .ok) (position : Nat) : ¬ cache.store.buffer.InHole position := by
  rcases steady with inv | failed
  · have occurred : cache.describePhase = .occurred :=
      @Inv.occurred_of_intake _ cache.blanked inv (by simp [blanked, mapBytes, stopped])
    have running := (blanked_running inv occurred).2
    rw [stopped] at running
    rintro ⟨key, count, there, -⟩
    have none : cache.store.buffer.holes.get? key = none := running.intakeReady.2 key
    cases none.symm.trans there
  · exact absurd ok failed.failed

theorem Caught.honest (caught : Caught asset cache) (nonempty : 0 < asset.length)
    (fits : asset.length < 2 ^ 64) {fetch : Fetch} (reads : Reads asset cache fetch)
    (full : InFull cache fetch) : CachesHonestly asset cache fetch := by
  intro next taken
  have after := caught.step nonempty fits reads full taken
  exact ⟨fun _ _ stores => after.stores stores, caught.missing nonempty fits reads full taken,
    after.steady.stopped⟩

theorem Caught.inFull (caught : Caught asset cache) (nonempty : 0 < asset.length)
    (fits : asset.length < 2 ^ 64) {fetch : Fetch} (reads : Reads asset cache fetch)
    (honestly : CachesHonestly asset cache fetch) : InFull cache fetch := by
  obtain ⟨event, bytesRead⟩ := fetch
  obtain ⟨offered, delivers⟩ := reads
  cases event with
  | intakeComplete result bytes =>
    cases result with
    | ok =>
      obtain ⟨-, few, -⟩ := delivers
      have ⟨position, reading⟩ := offered
      have inv := caught.steady.reading reading
      obtain ⟨atPosition, -, free⟩ := intakeHole_of_reading inv reading
      have described : cache.describePhase ≠ .pending := by
        simp [occurred_of_reading inv reading]
      obtain ⟨next, taken, after, -⟩ := step_of_blanked inv nonempty fits
        (.intakeComplete .ok bytes) ⟨intakeComplete_guard inv reading, trivial⟩
      obtain ⟨hole, isHole, filled⟩ := step_regions taken
      obtain rfl := Option.some.inj (atPosition.symm.trans isHole)
      by_contra short
      have less : bytesRead < bytes.length := by
        have different : bytesRead ≠ bytes.length := short
        simp only at few
        omega
      have inHole := (honestly next taken).missing described (position + bytesRead)
        (free _ (by omega) (by omega)) (by
          rintro ⟨other, start, same, isReading, -, upper⟩
          obtain rfl := (Event.intakeComplete.inj same).2
          obtain rfl := (Intake.reading.inj (reading.symm.trans isReading)).1
          simp only at upper
          omega)
      refine ((blanked_partition after ((step_extends taken).described described) _).mp
        inHole).2 ⟨position, bytes, ?_, by omega, by omega⟩
      have absent := blanked_absent inv described (free position (Nat.le_refl _) (by omega))
      rw [filled, get?_insert _ _ _ _ absent, if_pos rfl]
    | _ => trivial
  | _ => trivial

theorem caught_start (asset : List UInt8) : Caught asset { } := ⟨.inl inv_start, nofun⟩

-- In every run, the cache holds the asset's bytes only and leaves what has not been delivered to
-- be read exactly when every read that succeeds delivers all that it was asked for.
theorem cached_honestly_iff_in_full (asset : List UInt8) (nonempty : 0 < asset.length)
    (fits : asset.length < 2 ^ 64) (fetches : List Fetch)
    (reads : Meets fetchStep (Reads asset) { } fetches) :
    Meets fetchStep (CachesHonestly asset) { } fetches ↔ Meets fetchStep InFull { } fetches := by
  have same := meets_congr fetchStep
    (fun cache fetch => Reads asset cache fetch ∧ CachesHonestly asset cache fetch)
    (fun cache fetch => Reads asset cache fetch ∧ InFull cache fetch) (Caught asset)
    (by
      intro cache fetch caught
      refine and_congr_right fun reads => ⟨caught.inFull nonempty fits reads, ?_⟩
      exact caught.honest nonempty fits reads)
    (fun cache fetch next caught guard taken =>
      caught.step nonempty fits guard.1 guard.2 taken)
    { } fetches (caught_start asset)
  rw [meets_and, meets_and] at same
  exact ⟨fun honestly => (same.mp ⟨reads, honestly⟩).2, fun full => (same.mpr ⟨reads, full⟩).2⟩

def threeBytes : List Fetch := [⟨.describe .ok 3 true, 0⟩, ⟨.occur, 0⟩, ⟨.start, 0⟩]

theorem read_in_full_cached :
    Meets fetchStep (CachesHonestly [10, 20, 30]) { }
      (threeBytes ++ [⟨.intakeComplete .ok [10, 20, 30], 3⟩]) := by
  refine (cached_honestly_iff_in_full [10, 20, 30] (by decide) (by decide) _ ?_).mpr ?_
  · refine ⟨⟨⟨rfl, fun _ => rfl⟩, trivial⟩, ?_⟩
    rintro described ⟨⟩
    refine ⟨⟨rfl, trivial⟩, ?_⟩
    rintro occurred ⟨⟩
    refine ⟨⟨⟨rfl, rfl, rfl⟩, trivial⟩, ?_⟩
    rintro started ⟨⟩
    refine ⟨⟨⟨0, rfl⟩, by decide, by decide, ?_⟩, fun _ _ => trivial⟩
    rintro position ⟨⟩
    rfl
  · exact ⟨trivial, fun _ _ => ⟨trivial, fun _ _ => ⟨trivial, fun _ _ => ⟨rfl, fun _ _ =>
      trivial⟩⟩⟩⟩

theorem short_read_caches_zeros :
    Meets fetchStep (Reads [10, 20, 30]) { }
        (threeBytes ++ [⟨.intakeComplete .ok [10, 0, 0], 1⟩]) ∧
      ∃ cache, run fetchStep { } (threeBytes ++ [⟨.intakeComplete .ok [10, 0, 0], 1⟩]) =
          some cache ∧
        cache.store.buffer.Stores 1 0 ∧ ¬ cache.store.buffer.InHole 1 := by
  refine ⟨⟨⟨⟨rfl, fun _ => rfl⟩, trivial⟩, ?_⟩, _, rfl, ?_, ?_⟩
  · rintro described ⟨⟩
    refine ⟨⟨rfl, trivial⟩, ?_⟩
    rintro occurred ⟨⟩
    refine ⟨⟨⟨rfl, rfl, rfl⟩, trivial⟩, ?_⟩
    rintro started ⟨⟩
    refine ⟨⟨⟨0, rfl⟩, by decide, by decide, ?_⟩, fun _ _ => trivial⟩
    rintro position ⟨⟩
    rfl
  · exact ⟨0, [10, 0, 0], rfl, by decide, rfl⟩
  · rintro ⟨key, size, there, -⟩
    cases there

def Succeeds (asset : List UInt8) (cache : ReaderCache) : Event → Prop
  | .readAt position bytesToRead =>
    Allowed asset cache (.readAt position bytesToRead) ∧ position + bytesToRead < 2 ^ 64
  | event => Allowed asset cache event

-- The callback of `Describe` runs until the intake has been started, and that of the upstream
-- reader's `ReadAt` until the intake continues.
def CallbackRunning (cache : ReaderCache) : Prop :=
  cache.describePhase = .initialized ∨
    cache.describePhase = .occurred ∧ cache.intake = .idle ∨ cache.intake = .delivered

structure Provided (cache : ReaderCache) (position : Nat) : Prop where
  inFlight : ∃ start count, cache.intake = .reading start count ∧
    (start ≤ position ∧ position < start + count ∨
      cache.store.readHole = some position ∧
        ∃ size, cache.store.buffer.holes.get? position = some size)

structure GoesOn (cache : ReaderCache) : Prop where
  stopped : cache.intake = .stopped → ∀ key, cache.store.buffer.holes.get? key = none
  unknownSize : cache.CallbackRunning → cache.describePhase = .occurred →
    ∀ store, cache.store.getIntakePositionAndSize = some (none, store) →
      ∀ key, cache.store.buffer.holes.get? key = none
  provided : ∀ request, cache.store.readRequest = some request → ¬ cache.CallbackRunning →
    cache.Provided request.position

theorem Inv.goesOn (inv : Inv asset cache) : GoesOn cache := by
  refine ⟨?_, ?_, ?_⟩
  · intro stopped
    have running := inv.running (inv.occurred_of_intake (by simp [stopped]))
    rw [stopped] at running
    exact running.intakeReady.2
  · intro running occurred store none
    have free : cache.intake = .idle ∨ cache.intake = .delivered := by
      rcases running with initialized | ⟨-, idle⟩ | delivered
      · cases initialized.symm.trans occurred
      · exact .inl idle
      · exact .inr delivered
    cases asked : cache.store.readRequest with
    | some request =>
      obtain ⟨position, count, next, got, -⟩ :=
        Store.getIntake_waiting (inv.running occurred) asked free
      cases none.symm.trans got
    | none =>
      rcases Store.getIntake_quiet (inv.running occurred) asked free with
        ⟨position, count, got, -⟩ | ⟨-, stopped⟩
      · cases none.symm.trans got
      · exact stopped.intakeReady.2
  · intro request asked quiet
    have occurred : cache.describePhase = .occurred := by
      cases phaseIs : cache.describePhase with
      | pending =>
        have phase := inv.phase
        rw [phaseIs] at phase
        cases phase.1.symm.trans asked
      | initialized => exact absurd (.inl phaseIs) quiet
      | occurred => rfl
    have running := inv.running occurred
    obtain ⟨follows, -, inHole, -, -, coming⟩ := running.waiting request asked
    rw [follows.samePosition]
    cases intakeIs : cache.intake with
    | idle => exact absurd (.inr (.inl ⟨occurred, intakeIs⟩)) quiet
    | delivered => exact absurd (.inr (.inr intakeIs)) quiet
    | reading start count =>
      refine ⟨start, count, intakeIs, ?_⟩
      rw [intakeIs] at coming
      exact coming.symm.imp And.right id
    | stopped =>
      obtain ⟨key, size, there, -⟩ := inHole
      rw [intakeIs] at running
      cases (running.intakeReady.2 key).symm.trans there

theorem succeeds_inv (nonempty : 0 < asset.length) (fits : asset.length < 2 ^ 64)
    (inv : Inv asset cache) {event : Event} (succeeds : Succeeds asset cache event)
    (taken : step cache event = some next) : Inv asset next := by
  have unfailing (guard : Allowed asset cache event ∧ FindsRegion cache event) :
      Inv asset next := by
    obtain ⟨other, same, kept, -⟩ := step_spec nonempty fits inv event guard
    obtain rfl := Option.some.inj (taken.symm.trans same)
    exact kept
  cases event with
  | readAt position bytesToRead =>
    obtain ⟨allowed, small⟩ := succeeds
    refine unfailing ⟨allowed, small, ?_⟩
    intro occurred
    by_contra notBegun
    obtain ⟨free, inside, positive⟩ := allowed
    have stuck := Store.setReadAtRequest_not_begun (inv.running occurred).faithful inside
      positive small notBegun
    simp [step, free, readAt, occurred, stuck] at taken
  | describe result size canSeek => exact unfailing ⟨succeeds, trivial⟩
  | occur => exact unfailing ⟨succeeds, trivial⟩
  | start => exact unfailing ⟨succeeds, trivial⟩
  | intakeComplete result bytes => exact unfailing ⟨succeeds, trivial⟩
  | continueIntake => exact unfailing ⟨succeeds, trivial⟩

-- In every run with an upstream reader that always succeeds in full, the intake stops only when
-- there are no holes, and a request of the store for which no callback runs is provided for.
theorem intake_goes_on (asset : List UInt8) (nonempty : 0 < asset.length)
    (fits : asset.length < 2 ^ 64) (events : List Event)
    (succeeds : Meets step (Succeeds asset) { } events) (cache : ReaderCache)
    (reached : run step { } events = some cache) : GoesOn cache := by
  have inv : Inv asset cache := by
    apply invariant_of_step step (Succeeds asset) (Inv asset) _ { } cache events inv_start
      succeeds reached
    intro before event after inv succeeds taken
    exact succeeds_inv nonempty fits inv succeeds taken
  exact inv.goesOn

theorem second_byte_provided :
    ∃ cache, run step { } [.describe .ok 2 true, .occur, .start, .readAt 1 1] = some cache ∧
      GoesOn cache := by
  refine ⟨_, rfl, intake_goes_on [10, 20] (by decide) (by decide)
    [.describe .ok 2 true, .occur, .start, .readAt 1 1] ?_ _ rfl⟩
  refine ⟨⟨rfl, rfl, rfl⟩, ?_⟩
  rintro described ⟨⟩
  refine ⟨rfl, ?_⟩
  rintro occurred ⟨⟩
  refine ⟨⟨rfl, rfl⟩, ?_⟩
  rintro started ⟨⟩
  exact ⟨⟨⟨rfl, by decide, by decide⟩, by decide⟩, fun _ _ => trivial⟩

theorem early_request_not_in_flight :
    Meets step (Succeeds [10, 20]) { } [.readAt 1 1] ∧
      ∃ cache, run step { } [.readAt 1 1] = some cache ∧
        cache.inProgress = some (.started 1 1) ∧ ¬ cache.CallbackRunning ∧
        ¬ cache.Provided 1 := by
  refine ⟨⟨⟨⟨rfl, by decide, by decide⟩, by decide⟩, fun _ _ => trivial⟩, _, rfl, rfl, ?_, ?_⟩
  · rintro (initialized | ⟨occurred, -⟩ | delivered)
    · cases initialized
    · cases occurred
    · cases delivered
  · rintro ⟨start, count, reading, -⟩
    cases reading

end ReaderCache

end MojoMedia
