import Mathlib.Data.List.TakeDrop
import MojoMedia.Framework.SparseByteBufferPartition
import MojoMedia.Framework.ReaderCache

set_option autoImplicit false

namespace MojoMedia

open OrderedMap Extents MachineInt SparseByteBuffer

def slice (asset : List UInt8) (position count : Nat) : List UInt8 :=
  (asset.drop position).take count

theorem slice_length (asset : List UInt8) (position count : Nat)
    (inside : position + count ≤ asset.length) : (slice asset position count).length = count := by
  simp only [slice, List.length_take, List.length_drop]
  omega

theorem slice_append (asset : List UInt8) (position first second : Nat) :
    slice asset position first ++ slice asset (position + first) second =
      slice asset position (first + second) := by
  rw [slice, slice, slice, ← List.drop_drop, ← List.take_add]

theorem slice_slice (asset : List UInt8) (position count inner innerCount : Nat)
    (inside : inner + innerCount ≤ count) :
    ((slice asset position count).drop inner).take innerCount =
      slice asset (position + inner) innerCount := by
  rw [slice, slice, List.drop_take, List.take_take, List.drop_drop]
  congr 1
  omega

structure Store.Faithful (asset : List UInt8) (store : Store) : Prop where
  ok : store.result = .ok
  size : store.size = asset.length
  bufferSize : store.buffer.size = asset.length
  partition : store.buffer.Partition
  contents : ∀ key bytes, store.buffer.regions.get? key = some bytes →
    bytes = slice asset key bytes.length
  hint : ∀ key ∈ store.readRegion, ∃ bytes, store.buffer.regions.get? key = some bytes

structure Store.Follows (asset : List UInt8) (store : Store) (request : ReadAtRequest) : Prop where
  position : store.readRequestPosition = request.start + request.buffer.length
  samePosition : request.position = store.readRequestPosition
  copied : request.buffer = slice asset request.start request.buffer.length
  counts : request.buffer.length + request.remainingBytesToRead = request.originalBytesToRead
  ends : store.readRequestPosition + store.readRequestRemainingBytes =
    min (request.start + request.originalBytesToRead) asset.length
  inside : request.start < asset.length
  positive : 0 < request.originalBytesToRead

def SparseByteBuffer.Begun (buffer : SparseByteBuffer) (position : Nat) : Prop :=
  (∀ key, buffer.regions.get? key = none) ∨
    ∃ key bytes, buffer.regions.get? key = some bytes ∧ key ≤ position

instance (buffer : SparseByteBuffer) (position : Nat) : Decidable (buffer.Begun position) :=
  decidable_of_iff
    (buffer.regions.entries.isEmpty ∨ ∃ entry ∈ buffer.regions.entries, entry.1 ≤ position) <| by
  refine or_congr ?_ ?_
  · rw [List.isEmpty_iff, List.eq_nil_iff_forall_not_mem]
    constructor
    · intro noEntry key
      refine Option.eq_none_iff_forall_ne_some.mpr fun bytes present => ?_
      exact noEntry (key, bytes) ((get?_eq_some _ _ _).mp present)
    · intro blank entry member
      exact absurd ((get?_eq_some _ _ _).mpr member) (by rw [blank]; nofun)
  · simp only [get?_eq_some, Prod.exists]

structure SparseByteBuffer.Refines (buffer next : SparseByteBuffer) : Prop where
  regions : next.regions = buffer.regions
  inHole : ∀ position, next.InHole position ↔ buffer.InHole position
  holes : ∀ key size, buffer.holes.get? key = some size → ∃ size, next.holes.get? key = some size

theorem SparseByteBuffer.Refines.refl (buffer : SparseByteBuffer) : buffer.Refines buffer :=
  ⟨rfl, fun _ => Iff.rfl, fun _ size present => ⟨size, present⟩⟩

namespace Store

variable {asset : List UInt8} {store : Store} {request : ReadAtRequest}

theorem Faithful.fits (faithful : store.Faithful asset) : asset.length < 2 ^ 64 := by
  rw [← faithful.bufferSize]
  exact faithful.partition.fits

theorem Faithful.bytesAt_eq (faithful : store.Faithful asset) {key position count : Nat}
    {bytes : List UInt8} (there : store.buffer.regions.get? key = some bytes)
    (lower : key ≤ position) (upper : position + count ≤ key + bytes.length) :
    bytesAt key bytes position count = some (slice asset position count) := by
  have contents := faithful.contents key bytes there
  rw [bytesAt, if_pos ⟨lower, by omega⟩]
  generalize bytes.length = length at contents upper
  rw [contents, slice_slice _ _ _ _ _ (by omega), Nat.add_sub_cancel' lower]

theorem Faithful.region_inside (faithful : store.Faithful asset) {key : Nat} {bytes : List UInt8}
    (there : store.buffer.regions.get? key = some bytes) : key + bytes.length ≤ asset.length := by
  have positive := faithful.partition.regions.positive key bytes there
  have last := (faithful.partition.total (key + bytes.length - 1)).mpr
    (.inr ⟨key, bytes, there, by omega, by omega⟩)
  rw [faithful.bufferSize] at last
  omega

theorem Faithful.advance (faithful : store.Faithful asset) {key : Nat} {bytes : List UInt8}
    (there : store.buffer.regions.get? key = some bytes) (count : Nat) :
    (store.advance key count).Faithful asset := by
  obtain ⟨ok, size, bufferSize, partition, contents, -⟩ := faithful
  refine ⟨ok, size, bufferSize, partition, contents, ?_⟩
  rintro other ⟨⟩
  exact ⟨bytes, there⟩

theorem Follows.advance (follows : store.Follows asset request) (key count : Nat)
    (few : count ≤ store.readRequestRemainingBytes) :
    (store.advance key count).Follows asset
      (request.copyFrom (slice asset store.readRequestPosition count)) := by
  obtain ⟨position, samePosition, copied, counts, ends, inside, positive⟩ := follows
  have length := slice_length asset store.readRequestPosition count (by omega)
  have total : (request.copyFrom (slice asset store.readRequestPosition count)).buffer.length =
      request.buffer.length + count := by
    simp only [ReadAtRequest.copyFrom, List.length_append, length]
  refine ⟨?_, ?_, ?_, ?_, ?_, inside, positive⟩
  · rw [total]
    simp only [Store.advance, ReadAtRequest.copyFrom]
    omega
  · simp only [Store.advance, ReadAtRequest.copyFrom, length, samePosition]
  · rw [total]
    simp only [ReadAtRequest.copyFrom]
    rw [← slice_append, ← copied, ← position]
  · rw [total]
    simp only [ReadAtRequest.copyFrom, length]
    omega
  · simp only [Store.advance, ReadAtRequest.copyFrom]
    omega

theorem Follows.congr {next : Store} (follows : store.Follows asset request)
    (position : next.readRequestPosition = store.readRequestPosition)
    (remaining : next.readRequestRemainingBytes = store.readRequestRemainingBytes) :
    next.Follows asset request := by
  obtain ⟨reached, samePosition, copied, counts, ends, inside, positive⟩ := follows
  refine ⟨?_, ?_, copied, counts, ?_, inside, positive⟩
  · rw [position, reached]
  · rw [position, samePosition]
  · rw [position, remaining, ends]

structure Served (asset : List UInt8) (store : Store) (request : ReadAtRequest) (done : Bool)
    (next : Store) (left : ReadAtRequest) : Prop where
  faithful : next.Faithful asset
  follows : next.Follows asset left
  start : left.start = request.start
  original : left.originalBytesToRead = request.originalBytesToRead
  refines : store.buffer.Refines next.buffer
  intakeHole : next.intakeHole = store.intakeHole
  begun : next.buffer.Begun next.readRequestPosition
  fewer : next.readRequestRemainingBytes ≤ store.readRequestRemainingBytes
  progress : 0 < store.readRequestRemainingBytes →
    store.buffer.InRegion store.readRequestPosition →
    next.readRequestRemainingBytes < store.readRequestRemainingBytes
  finished : done = true → next.readRequestRemainingBytes = 0 ∧ next.readHole = store.readHole
  cached : done = true → 0 < store.readRequestRemainingBytes →
    store.buffer.InRegion store.readRequestPosition
  asking : done = false → 0 < next.readRequestRemainingBytes ∧
    next.buffer.InHole next.readRequestPosition ∧
    next.readHole = some next.readRequestPosition ∧
    ∃ size, next.buffer.holes.get? next.readRequestPosition = some size

theorem Follows.in_buffer (follows : store.Follows asset request)
    (faithful : store.Faithful asset) (more : 0 < store.readRequestRemainingBytes) :
    store.buffer.InHole store.readRequestPosition ∨
      store.buffer.InRegion store.readRequestPosition := by
  refine (faithful.partition.total _).mp ?_
  have ends := follows.ends
  rw [faithful.bufferSize]
  omega

theorem served_asking (faithful : store.Faithful asset) (follows : store.Follows asset request)
    (begun : store.buffer.Begun store.readRequestPosition)
    (valid : ∀ key ∈ store.intakeHole, ∃ size, store.buffer.holes.get? key = some size)
    (more : 0 < store.readRequestRemainingBytes)
    (missing : ¬ store.buffer.InRegion store.readRequestPosition) :
    ∃ next, store.askIntake = some next ∧ Served asset store request false next request := by
  have inHole := (follows.in_buffer faithful more).resolve_right missing
  obtain ⟨next, created, partition, size, regions, holes, atPosition, kept⟩ :=
    faithful.partition.findOrCreateHole_spec inHole valid
  refine ⟨
    { store with
      buffer := next
      readHole := some store.readRequestPosition
      readRegion := none },
    by simp [askIntake, created], ?_⟩
  obtain ⟨ok, storeSize, bufferSize, -, contents, -⟩ := faithful
  refine ⟨⟨ok, storeSize, size.trans bufferSize, partition, ?_, nofun⟩, follows.congr rfl rfl, rfl,
    rfl, ⟨regions, holes, kept⟩, rfl, ?_, Nat.le_refl _, fun _ cached => absurd cached missing,
    nofun, nofun, fun _ => ⟨more, (holes _).mpr inHole, rfl, atPosition⟩⟩
  · rw [regions]
    exact contents
  · simp only [Begun, regions]
    exact begun

theorem served_finished (faithful : store.Faithful asset) (follows : store.Follows asset request)
    (begun : store.buffer.Begun store.readRequestPosition)
    (none : store.readRequestRemainingBytes = 0) : Served asset store request true store request :=
  ⟨faithful, follows, rfl, rfl, .refl _, rfl, begun, Nat.le_refl _,
    fun more => absurd none (Nat.ne_of_gt more), fun _ => ⟨none, rfl⟩,
    fun _ more => absurd none (Nat.ne_of_gt more), nofun⟩

theorem Served.after_copy {key count : Nat} {source : List UInt8} {done : Bool} {next : Store}
    {left : ReadAtRequest} (cached : store.buffer.InRegion store.readRequestPosition)
    (some : 0 < count) (few : count ≤ store.readRequestRemainingBytes)
    (served : Served asset (store.advance key count) (request.copyFrom source) done next left) :
    Served asset store request done next left := by
  have fewer : next.readRequestRemainingBytes ≤ store.readRequestRemainingBytes - count :=
    served.fewer
  exact ⟨served.faithful, served.follows, served.start, served.original, served.refines,
    served.intakeHole, served.begun, by omega, fun _ _ => by omega, served.finished,
    fun _ _ => cached, served.asking⟩

theorem serveLoop_spec (fuel : Nat) (store : Store) (request : ReadAtRequest)
    (faithful : store.Faithful asset) (follows : store.Follows asset request)
    (begun : store.buffer.Begun store.readRequestPosition)
    (valid : ∀ key ∈ store.intakeHole, ∃ size, store.buffer.holes.get? key = some size)
    (enough : store.readRequestRemainingBytes ≤ fuel) :
    ∃ done next left, serveLoop fuel store request = some (done, next, left) ∧
      Served asset store request done next left := by
  induction fuel generalizing store request with
  | zero =>
    have none : store.readRequestRemainingBytes = 0 := by omega
    rw [serveLoop, if_pos (.inr none)]
    exact ⟨true, store, request, rfl, served_finished faithful follows begun none⟩
  | succ fuel ih =>
    by_cases none : store.readRequestRemainingBytes = 0
    · rw [serveLoop, if_pos (.inr none)]
      exact ⟨true, store, request, rfl, served_finished faithful follows begun none⟩
    · rw [serveLoop, if_neg (by simp [faithful.ok, none]),
        faithful.partition.findRegionContaining_eq faithful.hint]
      by_cases cached : store.buffer.InRegion store.readRequestPosition
      · obtain ⟨key, holds⟩ := cached
        rw [faithful.partition.searchRegion_found holds]
        obtain ⟨bytes, there, lower, upper⟩ := holds
        have inAsset := faithful.region_inside there
        have fits := faithful.fits
        have available : subU64 (key + bytes.length) store.readRequestPosition =
            key + bytes.length - store.readRequestPosition :=
          subU64_of_le _ _ (by omega) (by omega)
        generalize isCount : min (key + bytes.length - store.readRequestPosition)
          store.readRequestRemainingBytes = count
        have source := faithful.bytesAt_eq there lower
          (show store.readRequestPosition + count ≤ key + bytes.length by omega)
        simp only [Option.bind_eq_bind, Option.bind_some, there, available, isCount, source]
        obtain ⟨done, next, left, ran, served⟩ := ih (store.advance key count)
          (request.copyFrom (slice asset store.readRequestPosition count))
          (faithful.advance there count) (follows.advance key count (by omega))
          (.inr ⟨key, bytes, there, by simp only [Store.advance]; omega⟩) valid
          (by simp only [Store.advance]; omega)
        exact ⟨done, next, left, ran,
          served.after_copy ⟨key, bytes, there, lower, upper⟩ (by omega) (by omega)⟩
      · rw [faithful.partition.searchRegion_missing cached begun]
        obtain ⟨next, asked, served⟩ := served_asking faithful follows begun valid (by omega) cached
        exact ⟨false, next, request, by simp [asked], served⟩

end Store

def Completion.Exact (asset : List UInt8) (completion : Completion) : Prop :=
  completion.result = .ok ∧
    completion.bytes = slice asset completion.position
      (min (completion.position + completion.bytesToRead) asset.length - completion.position) ∧
    completion.bytesRead = completion.bytes.length

def Completion.request (completion : Completion) : Nat × Nat :=
  (completion.position, completion.bytesToRead)

def ReadAtRequest.request (request : ReadAtRequest) : Nat × Nat :=
  (request.start, request.originalBytesToRead)

namespace Store

variable {asset : List UInt8} {store : Store} {request : ReadAtRequest}

theorem Follows.exact_of_finished (follows : store.Follows asset request)
    (finished : store.readRequestRemainingBytes = 0) :
    (request.complete .ok).Exact asset := by
  obtain ⟨position, -, copied, counts, ends, -, -⟩ := follows
  have length : min (request.start + request.originalBytesToRead) asset.length - request.start =
      request.buffer.length := by omega
  refine ⟨rfl, ?_, ?_⟩
  · simp only [ReadAtRequest.complete, length]
    exact copied
  · simp only [ReadAtRequest.complete]
    omega

theorem serveRequest_spec (asked : store.readRequest = some request)
    (faithful : store.Faithful asset) (follows : store.Follows asset request)
    (begun : store.buffer.Begun store.readRequestPosition)
    (valid : ∀ key ∈ store.intakeHole, ∃ size, store.buffer.holes.get? key = some size) :
    ∃ done next left, Served asset store request done next left ∧
      store.serveRequest =
        if done then some ({ next with readRequest := none }, some (left.complete .ok))
        else some ({ next with readRequest := some left }, none) := by
  obtain ⟨done, next, left, ran, served⟩ := serveLoop_spec store.readRequestRemainingBytes store
    request faithful follows begun valid (Nat.le_refl _)
  refine ⟨done, next, left, served, ?_⟩
  simp only [serveRequest, asked, ran, Option.bind_eq_bind, Option.bind_some, served.faithful.ok]

end Store

end MojoMedia
