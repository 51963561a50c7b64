import MojoMedia.Framework.ReaderCacheServe

set_option autoImplicit false

namespace MojoMedia

open OrderedMap Extents MachineInt SparseByteBuffer

def SparseByteBuffer.Blank (buffer : SparseByteBuffer) : Prop :=
  ∀ key, buffer.regions.get? key = none

def Store.IntakeReady (store : Store) : Intake → Prop
  | .idle => store.buffer.Blank ∧ store.intakeHole = some 0 ∧
      ∃ size, store.buffer.holes.get? 0 = some size
  | .reading position size => 0 < size ∧ store.intakeHole = some position ∧
      (∃ size, store.buffer.holes.get? position = some size) ∧
      ∀ other, position ≤ other → other < position + size → store.buffer.InHole other
  | .delivered => ¬ store.buffer.Blank ∧ Current store.buffer.holes store.intakeHole
  | .stopped => store.intakeHole = none ∧ ∀ key, store.buffer.holes.get? key = none

def Intake.Covers (position : Nat) : Intake → Prop
  | .reading start size => start ≤ position ∧ position < start + size
  | _ => False

def Intake.StartsBy (position : Nat) : Intake → Prop
  | .reading start _ => start ≤ position
  | _ => True

structure Store.Waiting (asset : List UInt8) (store : Store) (intake : Intake)
    (request : ReadAtRequest) : Prop where
  follows : store.Follows asset request
  more : 0 < store.readRequestRemainingBytes
  inHole : store.buffer.InHole store.readRequestPosition
  begun : store.buffer.Begun store.readRequestPosition
  origin : store.buffer.Blank → intake.StartsBy store.readRequestPosition
  coming : (store.readHole = some store.readRequestPosition ∧
      ∃ size, store.buffer.holes.get? store.readRequestPosition = some size) ∨
    (store.readHole = none ∧ intake.Covers store.readRequestPosition)

structure Store.Running (asset : List UInt8) (store : Store) (intake : Intake) : Prop where
  faithful : store.Faithful asset
  intakeReady : store.IntakeReady intake
  quiet : store.readRequest = none →
    store.readHole = none ∧ (store.buffer.Blank → intake.StartsBy 0)
  waiting : ∀ request, store.readRequest = some request → store.Waiting asset intake request

namespace Store

variable {asset : List UInt8} {store next : Store} {intake : Intake} {request : ReadAtRequest}

theorem IntakeReady.valid (ready : store.IntakeReady intake) :
    ∀ key ∈ store.intakeHole, ∃ size, store.buffer.holes.get? key = some size := by
  intro key isKey
  cases intake with
  | idle =>
    obtain ⟨-, atStart, there⟩ := ready
    obtain rfl := Option.some.inj (atStart.symm.trans isKey)
    exact there
  | reading position size =>
    obtain ⟨-, atPosition, there, -⟩ := ready
    obtain rfl := Option.some.inj (atPosition.symm.trans isKey)
    exact there
  | delivered => exact ready.2.2 key isKey
  | stopped =>
    rw [ready.1] at isKey
    cases isKey

theorem blank_refines {buffer other : SparseByteBuffer} (refines : buffer.Refines other) :
    other.Blank ↔ buffer.Blank := by
  simp only [Blank, refines.regions]

theorem current_refines {buffer other : SparseByteBuffer} (refines : buffer.Refines other)
    (separate : Apart id other.holes) {hole : Hole} (current : Current buffer.holes hole) :
    Current other.holes hole := by
  refine ⟨?_, ?_⟩
  · intro atEnd key
    cases found : other.holes.get? key with
    | none => rfl
    | some size =>
      obtain ⟨start, startSize, there, -⟩ :=
        (refines.inHole key).mp ⟨key, separate.holds_key found⟩
      rw [current.1 atEnd start] at there
      cases there
  · intro key isKey
    obtain ⟨size, there⟩ := current.2 key isKey
    exact refines.holes key size there

theorem IntakeReady.refines (ready : store.IntakeReady intake)
    (refines : store.buffer.Refines next.buffer) (separate : Apart id next.buffer.holes)
    (same : next.intakeHole = store.intakeHole) : next.IntakeReady intake := by
  cases intake with
  | idle =>
    obtain ⟨blank, atStart, size, there⟩ := ready
    exact ⟨(blank_refines refines).mpr blank, same.trans atStart, refines.holes 0 size there⟩
  | reading position size =>
    obtain ⟨positive, atPosition, ⟨holeSize, there⟩, free⟩ := ready
    refine ⟨positive, same.trans atPosition, refines.holes position holeSize there, ?_⟩
    intro other lower upper
    exact (refines.inHole other).mpr (free other lower upper)
  | delivered =>
    refine ⟨fun blank => ready.1 ((blank_refines refines).mp blank), ?_⟩
    rw [same]
    exact current_refines refines separate ready.2
  | stopped =>
    have current : Current store.buffer.holes none := ⟨fun _ => ready.2, nofun⟩
    exact ⟨same.trans ready.1, (current_refines refines separate current).1 rfl⟩

theorem startsBy_mono {position further : Nat} (starts : intake.StartsBy position)
    (order : position ≤ further) : intake.StartsBy further := by
  cases intake with
  | reading start size => exact Nat.le_trans starts order
  | idle => trivial
  | delivered => trivial
  | stopped => trivial

theorem not_blank_of_inRegion {buffer : SparseByteBuffer} {position : Nat}
    (cached : buffer.InRegion position) : ¬ buffer.Blank := by
  obtain ⟨key, bytes, there, -⟩ := cached
  intro blank
  rw [blank key] at there
  cases there

theorem Served.running_of_finished {left : ReadAtRequest}
    (served : Served asset store request true next left) (ready : store.IntakeReady intake)
    (more : 0 < store.readRequestRemainingBytes)
    (hole : store.buffer.InRegion store.readRequestPosition → store.readHole = none) :
    ({ next with readRequest := none } : Store).Running asset intake := by
  have cached := served.cached rfl more
  obtain ⟨ok, size, bufferSize, partition, contents, hint⟩ := served.faithful
  refine ⟨⟨ok, size, bufferSize, partition, contents, hint⟩,
    ready.refines served.refines partition.holes served.intakeHole, fun _ => ⟨?_, ?_⟩, nofun⟩
  · exact (served.finished rfl).2.trans (hole cached)
  · intro blank
    exact absurd ((blank_refines served.refines).mp blank) (not_blank_of_inRegion cached)

theorem Served.running_of_asking {left : ReadAtRequest}
    (served : Served asset store request false next left) (follows : store.Follows asset request)
    (ready : store.IntakeReady intake)
    (origin : store.buffer.Blank → intake.StartsBy store.readRequestPosition) :
    ({ next with readRequest := some left } : Store).Running asset intake := by
  obtain ⟨ok, size, bufferSize, partition, contents, hint⟩ := served.faithful
  obtain ⟨more, inHole, asked, there⟩ := served.asking rfl
  have forwards : store.readRequestPosition ≤ next.readRequestPosition := by
    have before := follows.ends
    have after := served.follows.ends
    have fewer := served.fewer
    rw [served.start, served.original] at after
    omega
  refine ⟨⟨ok, size, bufferSize, partition, contents, hint⟩,
    ready.refines served.refines partition.holes served.intakeHole, nofun, ?_⟩
  rintro other ⟨⟩
  refine ⟨served.follows.congr rfl rfl, more, inHole, served.begun, ?_, .inl ⟨asked, there⟩⟩
  intro blank
  exact startsBy_mono (origin ((blank_refines served.refines).mp blank)) forwards

structure Conveys (asset : List UInt8) (requests : List (Nat × Nat))
    (outcome : Store × Option Completion) : Prop where
  exactly : ∀ completion ∈ outcome.2, completion.Exact asset
  conserved : outcome.2.toList.map Completion.request ++
    outcome.1.readRequest.toList.map ReadAtRequest.request = requests

theorem serveRequest_running (asked : store.readRequest = some request)
    (faithful : store.Faithful asset) (follows : store.Follows asset request)
    (begun : store.buffer.Begun store.readRequestPosition) (ready : store.IntakeReady intake)
    (more : 0 < store.readRequestRemainingBytes)
    (hole : store.buffer.InRegion store.readRequestPosition → store.readHole = none)
    (origin : store.buffer.Blank → intake.StartsBy store.readRequestPosition) :
    ∃ outcome, store.serveRequest = some outcome ∧ outcome.1.Running asset intake ∧
      Conveys asset [request.request] outcome ∧
      (outcome.2 = none →
        outcome.1.readRequestRemainingBytes ≤ store.readRequestRemainingBytes ∧
        (store.buffer.InRegion store.readRequestPosition →
          outcome.1.readRequestRemainingBytes < store.readRequestRemainingBytes)) := by
  obtain ⟨done, next, left, served, result⟩ :=
    serveRequest_spec asked faithful follows begun ready.valid
  have sameRequest : left.request = request.request := by
    simp only [ReadAtRequest.request, served.start, served.original]
  cases done with
  | true =>
    refine ⟨_, result, served.running_of_finished ready more hole, ⟨?_, ?_⟩, nofun⟩
    · rintro completion ⟨⟩
      exact served.follows.exact_of_finished (served.finished rfl).1
    · have completed : (left.complete .ok).request = left.request := rfl
      simp [completed, sameRequest]
  | false =>
    refine ⟨_, result, served.running_of_asking follows ready origin, ⟨nofun, ?_⟩,
      fun _ => ⟨served.fewer, served.progress more⟩⟩
    simpa using sameRequest

-- The request that `SetReadAtRequest` starts to serve is cut at the end of the asset.
def asking (asset : List UInt8) (store : Store) (position bytesToRead : Nat) : Store :=
  { store with
    readRequest := some (.started position bytesToRead)
    readRequestPosition := position
    readRequestRemainingBytes := min (position + bytesToRead) asset.length - position }

theorem Faithful.setReadAtRequest_eq (faithful : store.Faithful asset) {position bytesToRead : Nat}
    (inside : position < asset.length) (small : position + bytesToRead < 2 ^ 64) :
    store.setReadAtRequest (.started position bytesToRead) =
      (asking asset store position bytesToRead).serveRequest := by
  have fits := faithful.fits
  have remaining : (if store.size < u64 (position + bytesToRead) then subU64 store.size position
      else bytesToRead) = min (position + bytesToRead) asset.length - position := by
    rw [u64_of_lt _ small, faithful.size]
    split
    next => rw [subU64_of_le _ _ fits (by omega)]; omega
    next => omega
  simp only [asking, ← remaining]
  rfl

theorem Faithful.asking (faithful : store.Faithful asset) (position bytesToRead : Nat) :
    (asking asset store position bytesToRead).Faithful asset := by
  obtain ⟨ok, size, bufferSize, partition, contents, hint⟩ := faithful
  exact ⟨ok, size, bufferSize, partition, contents, hint⟩

theorem asking_follows (store : Store) {position bytesToRead : Nat}
    (inside : position < asset.length) (positive : 0 < bytesToRead) :
    (asking asset store position bytesToRead).Follows asset (.started position bytesToRead) := by
  refine ⟨rfl, rfl, ?_, ?_, ?_, inside, positive⟩
  · simp [ReadAtRequest.started, slice]
  · simp [ReadAtRequest.started]
  · simp only [asking, ReadAtRequest.started]
    omega

theorem setReadAtRequest_running {position bytesToRead : Nat}
    (running : store.Running asset intake) (free : store.readRequest = none)
    (inside : position < asset.length) (positive : 0 < bytesToRead)
    (small : position + bytesToRead < 2 ^ 64) (begun : store.buffer.Begun position) :
    ∃ outcome, store.setReadAtRequest (.started position bytesToRead) = some outcome ∧
      outcome.1.Running asset intake ∧ Conveys asset [(position, bytesToRead)] outcome ∧
      (outcome.2 = none → outcome.1.readRequestRemainingBytes ≤ bytesToRead) := by
  obtain ⟨noHole, atStart⟩ := running.quiet free
  have ready : (asking asset store position bytesToRead).IntakeReady intake :=
    running.intakeReady.refines (.refl _) running.faithful.partition.holes rfl
  obtain ⟨outcome, ran, after, conveys, fewer⟩ := serveRequest_running
    (rfl : (asking asset store position bytesToRead).readRequest = some _)
    (running.faithful.asking position bytesToRead) (asking_follows store inside positive) begun
    ready (by simp only [asking]; omega) (fun _ => noHole)
    (fun blank => startsBy_mono (atStart blank) (Nat.zero_le _))
  refine ⟨outcome, (running.faithful.setReadAtRequest_eq inside small).trans ran, after, conveys,
    fun waiting => ?_⟩
  have := (fewer waiting).1
  simp only [asking] at this
  omega

theorem Faithful.free_inside (faithful : store.Faithful asset) {position count : Nat}
    (positive : 0 < count)
    (free : ∀ other, position ≤ other → other < position + count → store.buffer.InHole other) :
    position + count ≤ asset.length := by
  have last := (faithful.partition.total (position + count - 1)).mpr
    (.inl (free _ (by omega) (by omega)))
  rw [faithful.bufferSize] at last
  omega

theorem Faithful.fill (faithful : store.Faithful asset) {position count holeSize : Nat}
    (positive : 0 < count) (there : store.buffer.holes.get? position = some holeSize)
    (free : ∀ other, position ≤ other → other < position + count → store.buffer.InHole other) :
    ∃ hole buffer, store.buffer.fill (some position) (slice asset position count) =
        some (hole, buffer) ∧
      (∀ readHole, ({ store with readHole, intakeHole := hole, buffer } : Store).Faithful asset) ∧
      Current buffer.holes hole ∧
      (∀ key, buffer.regions.get? key =
        if key = position then some (slice asset position count)
        else store.buffer.regions.get? key) ∧
      (∀ other, buffer.InHole other ↔
        store.buffer.InHole other ∧ ¬ (position ≤ other ∧ other < position + count)) ∧
      ∀ key size, store.buffer.holes.get? key = some size →
        ¬ (position ≤ key ∧ key < position + count) → buffer.holes.get? key = some size := by
  have length := slice_length asset position count (faithful.free_inside positive free)
  obtain ⟨ok, size, bufferSize, partition, contents, hint⟩ := faithful
  have nonempty : slice asset position count ≠ [] := by
    rw [← List.length_pos_iff, length]
    exact positive
  obtain ⟨hole, buffer, filled, after, sameSize, current, -, regions, holes, kept⟩ :=
    partition.fill_spec there nonempty (by rw [length]; exact free)
  rw [length] at holes kept
  refine ⟨hole, buffer, filled, ?_, current, regions, holes, kept⟩
  intro readHole
  refine ⟨ok, size, sameSize.trans bufferSize, after, ?_, ?_⟩
  · intro key bytes present
    rw [regions] at present
    split at present
    next isKey =>
      obtain rfl := Option.some.inj present
      rw [isKey, length]
    next => exact contents key bytes present
  · intro key isHint
    obtain ⟨bytes, present⟩ := hint key isHint
    refine ⟨if key = position then slice asset position count else bytes, ?_⟩
    rw [regions]
    split
    next => rfl
    next => exact present

theorem putIntakeBuffer_running {position count : Nat}
    (running : store.Running asset (.reading position count)) :
    ∃ outcome, store.putIntakeBuffer position (slice asset position count) = some outcome ∧
      outcome.1.Running asset .delivered ∧
      Conveys asset (store.readRequest.toList.map ReadAtRequest.request) outcome ∧
      (store.readRequest ≠ none → outcome.2 = none →
        outcome.1.readRequestRemainingBytes ≤ store.readRequestRemainingBytes ∧
        (Intake.Covers store.readRequestPosition (.reading position count) →
          outcome.1.readRequestRemainingBytes < store.readRequestRemainingBytes)) := by
  obtain ⟨faithful, ⟨positive, atPosition, ⟨holeSize, there⟩, free⟩, quiet, waiting⟩ := running
  obtain ⟨hole, buffer, filled, after, current, regions, holes, kept⟩ :=
    faithful.fill positive there free
  have length := slice_length asset position count (faithful.free_inside positive free)
  let put : Store :=
    { store with
      readHole := store.keepReadHole position count
      intakeHole := hole
      buffer }
  have result : store.putIntakeBuffer position (slice asset position count) =
      put.serveIfAsked := by
    simp only [putIntakeBuffer, atPosition, filled, length, Option.bind_eq_bind, Option.bind_some,
      put]
  have notBlank : ¬ buffer.Blank := by
    intro blank
    have present := regions position
    rw [blank position, if_pos rfl] at present
    cases present
  have ready : put.IntakeReady .delivered := ⟨notBlank, current⟩
  rw [result, serveIfAsked]
  cases asked : store.readRequest with
  | none =>
    have noHole : put.readHole = none := by
      simp only [put, keepReadHole, (quiet asked).1, Option.filter_none]
    have none : put.readRequest = none := asked
    refine ⟨_, rfl, ⟨after _, ready, fun _ => ⟨noHole, fun _ => trivial⟩, ?_⟩, ⟨nofun, ?_⟩, ?_⟩
    · intro request isRequest
      rw [none] at isRequest
      cases isRequest
    · rw [none]
      rfl
    · exact fun impossible => absurd rfl impossible
  | some request =>
    obtain ⟨follows, more, inHole, begun, origin, coming⟩ := waiting request asked
    have cachedNow : put.buffer.InRegion store.readRequestPosition ↔
        position ≤ store.readRequestPosition ∧ store.readRequestPosition < position + count := by
      have total := (after none).partition.total store.readRequestPosition
      have before := (faithful.partition.total store.readRequestPosition).mpr (.inl inHole)
      have exclusive := (after none).partition.exclusive store.readRequestPosition
      rw [faithful.bufferSize] at before
      rw [(after none).bufferSize] at total
      have carved := holes store.readRequestPosition
      simp only [put]
      constructor
      · intro inRegion
        by_contra outside
        exact exclusive (carved.mpr ⟨inHole, outside⟩) inRegion
      · intro filled
        exact (total.mp before).resolve_left fun stillHole => (carved.mp stillHole).2 filled
    have stillBegun : put.buffer.Begun store.readRequestPosition := by
      right
      rcases begun with blank | ⟨key, bytes, present, lower⟩
      · exact ⟨position, slice asset position count, by simp [put, regions], origin blank⟩
      · by_cases isPosition : key = position
        · exact ⟨position, slice asset position count, by simp [put, regions], by omega⟩
        · exact ⟨key, bytes, by simp [put, regions, isPosition, present], lower⟩
    have noHole (cached : put.buffer.InRegion store.readRequestPosition) :
        put.readHole = none := by
      have covered := cachedNow.mp cached
      simp only [put, keepReadHole]
      rcases coming with ⟨asking, -⟩ | ⟨noHole, -⟩
      · rw [asking]
        simp [covered]
      · rw [noHole, Option.filter_none]
    have isAsked : put.readRequest = some request := asked
    obtain ⟨outcome, ran, running, conveys, fewer⟩ := serveRequest_running isAsked (after _)
      (follows.congr rfl rfl) stillBegun ready more noHole (fun blank => absurd blank notBlank)
    refine ⟨outcome, ran, running, by simpa using conveys, fun _ waits => ?_⟩
    exact ⟨(fewer waits).1, fun covers => (fewer waits).2 (cachedNow.mpr covers)⟩

theorem intakeReady_reading {key holeSize limit : Nat} (separate : Apart id store.buffer.holes)
    (there : store.buffer.holes.get? key = some holeSize) (positive : 0 < limit)
    (atKey : store.intakeHole = some key) :
    store.IntakeReady (.reading key (min limit holeSize)) := by
  have hole := separate.positive key holeSize there
  simp only [id] at hole
  refine ⟨by omega, atKey, ⟨holeSize, there⟩, ?_⟩
  intro other lower upper
  exact ⟨key, holeSize, there, lower, by simp only [id]; omega⟩

theorem getIntake_waiting (running : store.Running asset intake)
    (asked : store.readRequest = some request) (free : intake = .idle ∨ intake = .delivered) :
    ∃ position count next, store.getIntakePositionAndSize = some (some (position, count), next) ∧
      next.Running asset (.reading position count) ∧ next.readRequest = store.readRequest ∧
      next.readRequestRemainingBytes = store.readRequestRemainingBytes ∧
      Intake.Covers next.readRequestPosition (.reading position count) := by
  obtain ⟨faithful, -, -, waiting⟩ := running
  obtain ⟨follows, more, inHole, begun, -, coming⟩ := waiting request asked
  obtain ⟨asking, holeSize, there⟩ : store.readHole = some store.readRequestPosition ∧
      ∃ size, store.buffer.holes.get? store.readRequestPosition = some size := by
    rcases coming with asking | ⟨-, covers⟩
    · exact asking
    · rcases free with rfl | rfl
      · exact covers.elim
      · exact covers.elim
  have hole := faithful.partition.holes.positive _ holeSize there
  simp only [id] at hole
  have covers : Intake.Covers store.readRequestPosition
      (.reading store.readRequestPosition (min store.readRequestRemainingBytes holeSize)) :=
    ⟨Nat.le_refl _, by omega⟩
  refine ⟨store.readRequestPosition, min store.readRequestRemainingBytes holeSize,
    { store with
      intakeHole := some store.readRequestPosition
      readHole := none },
    by simp only [getIntakePositionAndSize, asking, there, Option.bind_eq_bind, Option.bind_some],
    ⟨?_, ?_, ?_, ?_⟩, rfl, rfl, covers⟩
  · obtain ⟨ok, size, bufferSize, partition, contents, hint⟩ := faithful
    exact ⟨ok, size, bufferSize, partition, contents, hint⟩
  · exact intakeReady_reading faithful.partition.holes there more rfl
  · intro none
    exact absurd (asked.symm.trans none) nofun
  · intro other isOther
    obtain rfl := Option.some.inj (asked.symm.trans isOther)
    exact ⟨follows.congr rfl rfl, more, inHole, begun, fun _ => Nat.le_refl _, .inr ⟨rfl, covers⟩⟩

theorem getIntake_quiet (running : store.Running asset intake) (quiet : store.readRequest = none)
    (free : intake = .idle ∨ intake = .delivered) :
    (∃ position count, store.getIntakePositionAndSize = some (some (position, count), store) ∧
      store.Running asset (.reading position count)) ∨
    (store.getIntakePositionAndSize = some (none, store) ∧ store.Running asset .stopped) := by
  obtain ⟨faithful, ready, noRequest, -⟩ := running
  obtain ⟨noHole, -⟩ := noRequest quiet
  have noWaiting (intake : Intake) (request : ReadAtRequest)
      (asked : store.readRequest = some request) : store.Waiting asset intake request :=
    absurd (asked.symm.trans quiet) nofun
  have reading {key holeSize : Nat} (atKey : store.intakeHole = some key)
      (there : store.buffer.holes.get? key = some holeSize)
      (starts : store.buffer.Blank → key ≤ 0) :
      ∃ position count, store.getIntakePositionAndSize = some (some (position, count), store) ∧
        store.Running asset (.reading position count) := by
    refine ⟨key, min kDefaultReadSize holeSize, ?_, faithful, ?_, fun _ => ⟨noHole, starts⟩,
      noWaiting _⟩
    · simp only [getIntakePositionAndSize, noHole, atKey, there, Option.bind_eq_bind,
        Option.bind_some]
    · exact intakeReady_reading faithful.partition.holes there (by decide) atKey
  rcases free with rfl | rfl
  · obtain ⟨blank, atStart, holeSize, there⟩ := ready
    exact .inl (reading atStart there fun _ => Nat.le_refl 0)
  · obtain ⟨notBlank, current⟩ := ready
    cases atHole : store.intakeHole with
    | none =>
      refine .inr ⟨?_, faithful, ⟨atHole, current.1 atHole⟩, fun _ => ⟨noHole, fun _ => trivial⟩,
        noWaiting _⟩
      simp only [getIntakePositionAndSize, noHole, atHole]
    | some key =>
      obtain ⟨holeSize, there⟩ := current.2 key atHole
      exact .inl (reading atHole there fun blank => absurd blank notBlank)

end Store

end MojoMedia
