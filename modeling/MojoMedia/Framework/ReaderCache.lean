import MojoMedia.Framework.SparseByteBuffer

set_option autoImplicit false

-- Every step is one critical section of the store, so that requests and intake can be interleaved
-- in any way. Checks that only debug builds make are left out; a read outside of a region's data
-- has no result.
namespace MojoMedia

open OrderedMap MachineInt SparseByteBuffer

inductive Result where
  | ok
  | unknownError
  | internalError
  | unsupportedOperation
  | invalidArgument
  | notFound
  deriving Repr, DecidableEq

-- `start` is the position `ReadAt` was called with, `buffer` what has been copied since.
structure ReadAtRequest where
  start : Nat
  position : Nat
  buffer : List UInt8
  originalBytesToRead : Nat
  remainingBytesToRead : Nat
  deriving Repr, DecidableEq

structure Completion where
  position : Nat
  bytesToRead : Nat
  result : Result
  bytesRead : Nat
  bytes : List UInt8
  deriving Repr, DecidableEq

namespace ReadAtRequest

def started (position bytesToRead : Nat) : ReadAtRequest :=
  { start := position
    position
    buffer := []
    originalBytesToRead := bytesToRead
    remainingBytesToRead := bytesToRead }

def copyFrom (request : ReadAtRequest) (source : List UInt8) : ReadAtRequest :=
  { request with
    position := request.position + source.length
    buffer := request.buffer ++ source
    remainingBytesToRead := request.remainingBytesToRead - source.length }

def complete (request : ReadAtRequest) (result : Result) : Completion :=
  { position := request.start
    bytesToRead := request.originalBytesToRead
    result
    bytesRead := request.originalBytesToRead - request.remainingBytesToRead
    bytes := request.buffer }

end ReadAtRequest

def kUnknownSize : Nat := 2 ^ 64 - 1

def kDefaultReadSize : Nat := 32 * 1024

structure Store where
  size : Nat := kUnknownSize
  canSeek : Bool := false
  result : Result := .ok
  buffer : SparseByteBuffer := { size := 0, holes := empty, regions := empty }
  intakeHole : Hole := none
  readHole : Hole := none
  readRegion : Region := none
  readRequest : Option ReadAtRequest := none
  readRequestPosition : Nat := 0
  readRequestRemainingBytes : Nat := 0

namespace Store

def initialized (store : Store) (result : Result) (size : Nat) (canSeek : Bool) :
    Option Store := do
  let buffer := SparseByteBuffer.initialized size
  let intakeHole ← buffer.findHoleContaining 0
  some { store with result, size, canSeek, buffer, intakeHole, readHole := none, readRegion := none }

def bytesAt (key : Nat) (bytes : List UInt8) (position count : Nat) : Option (List UInt8) :=
  if key ≤ position ∧ position - key + count ≤ bytes.length then
    some ((bytes.drop (position - key)).take count)
  else none

def advance (store : Store) (key count : Nat) : Store :=
  { store with
    readRegion := some key
    readRequestPosition := store.readRequestPosition + count
    readRequestRemainingBytes := store.readRequestRemainingBytes - count }

def askIntake (store : Store) : Option Store := do
  let (readHole, buffer) ←
    store.buffer.findOrCreateHole store.readRequestPosition store.intakeHole
  some { store with buffer, readHole, readRegion := none }

-- The loop of `ServeRequest`. The flag says that it ran to its end.
def serveLoop : Nat → Store → ReadAtRequest → Option (Bool × Store × ReadAtRequest)
  | fuel, store, request =>
    if store.result ≠ .ok ∨ store.readRequestRemainingBytes = 0 then some (true, store, request)
    else
      match fuel with
      | 0 => none
      | fuel + 1 => do
        match ← store.buffer.findRegionContaining store.readRequestPosition store.readRegion with
        | none => do
          let store ← store.askIntake
          some (false, store, request)
        | some key => do
          let bytes ← store.buffer.regions.get? key
          let available := subU64 (key + bytes.length) store.readRequestPosition
          let bytesToCopy := min available store.readRequestRemainingBytes
          let source ← bytesAt key bytes store.readRequestPosition bytesToCopy
          serveLoop fuel (store.advance key bytesToCopy) (request.copyFrom source)

def serveRequest (store : Store) : Option (Store × Option Completion) := do
  let request ← store.readRequest
  let (done, store, request) ← serveLoop store.readRequestRemainingBytes store request
  if done then
    some ({ store with readRequest := none }, some (request.complete store.result))
  else some ({ store with readRequest := some request }, none)

def setReadAtRequest (store : Store) (request : ReadAtRequest) :
    Option (Store × Option Completion) :=
  let remaining :=
    if store.size < u64 (request.position + request.remainingBytesToRead) then
      subU64 store.size request.position
    else request.remainingBytesToRead
  serveRequest
    { store with
      readRequest := some request
      readRequestPosition := request.position
      readRequestRemainingBytes := remaining }

def getIntakePositionAndSize (store : Store) : Option (Option (Nat × Nat) × Store) :=
  match store.readHole, store.intakeHole with
  | some key, _ => do
    let holeSize ← store.buffer.holes.get? key
    some (some (key, min store.readRequestRemainingBytes holeSize),
      { store with intakeHole := some key, readHole := none })
  | none, some key => do
    let holeSize ← store.buffer.holes.get? key
    some (some (key, min kDefaultReadSize holeSize), store)
  | none, none => some (none, store)

def keepReadHole (store : Store) (position count : Nat) : Hole :=
  store.readHole.filter fun key => ¬ (position ≤ key ∧ key < position + count)

def serveIfAsked (store : Store) : Option (Store × Option Completion) :=
  if store.readRequest.isSome then store.serveRequest else some (store, none)

def putIntakeBuffer (store : Store) (position : Nat) (bytes : List UInt8) :
    Option (Store × Option Completion) := do
  let readHole := store.keepReadHole position bytes.length
  let (intakeHole, buffer) ← store.buffer.fill store.intakeHole bytes
  serveIfAsked { store with readHole, intakeHole, buffer }

def reportIntakeError (store : Store) (result : Result) : Option (Store × Option Completion) :=
  serveIfAsked { store with result }

end Store

inductive Intake where
  | idle
  | reading (position size : Nat)
  | delivered
  | stopped
  deriving Repr, DecidableEq

inductive DescribePhase where
  | pending
  | initialized
  | occurred
  deriving Repr, DecidableEq

-- `waiting` is a request made before `describe_is_complete_` occurred. `requests` and
-- `completions` record all calls of `ReadAt` and of their callbacks.
structure ReaderCache where
  store : Store := { }
  describePhase : DescribePhase := .pending
  describeResult : Result := .ok
  waiting : Option ReadAtRequest := none
  intake : Intake := .idle
  requests : List (Nat × Nat) := []
  completions : List Completion := []

namespace ReaderCache

inductive Event where
  | describe (result : Result) (size : Nat) (canSeek : Bool)
  | occur
  | start
  | readAt (position bytesToRead : Nat)
  | intakeComplete (result : Result) (bytes : List UInt8)
  | continueIntake
  deriving Repr, DecidableEq

def inProgress (cache : ReaderCache) : Option ReadAtRequest :=
  cache.waiting.or cache.store.readRequest

def served (cache : ReaderCache) (outcome : Store × Option Completion) : ReaderCache :=
  { cache with
    store := outcome.1
    completions := cache.completions ++ outcome.2.toList }

def continueIntake (cache : ReaderCache) : Option ReaderCache := do
  let (next, store) ← cache.store.getIntakePositionAndSize
  match next with
  | some (position, size) => some { cache with store, intake := .reading position size }
  | none => some { cache with store, intake := .stopped }

def describe (cache : ReaderCache) (result : Result) (size : Nat) (canSeek : Bool) :
    Option ReaderCache := do
  let store ← cache.store.initialized result size canSeek
  some { cache with store, describeResult := result, describePhase := .initialized }

def occur (cache : ReaderCache) : Option ReaderCache :=
  let cache := { cache with describePhase := .occurred }
  match cache.waiting with
  | none => some cache
  | some request => do
    let outcome ← cache.store.setReadAtRequest request
    some (served { cache with waiting := none } outcome)

def readAt (cache : ReaderCache) (position bytesToRead : Nat) : Option ReaderCache :=
  let request := ReadAtRequest.started position bytesToRead
  let cache := { cache with requests := cache.requests ++ [(position, bytesToRead)] }
  if cache.describePhase = .occurred then do
    let outcome ← cache.store.setReadAtRequest request
    some (cache.served outcome)
  else some { cache with waiting := some request }

def intakeComplete (cache : ReaderCache) (position : Nat) (result : Result)
    (bytes : List UInt8) : Option ReaderCache :=
  if result = .ok then do
    let outcome ← cache.store.putIntakeBuffer position bytes
    some (served { cache with intake := .delivered } outcome)
  else do
    let outcome ← cache.store.reportIntakeError result
    some (served { cache with intake := .stopped } outcome)

def step (cache : ReaderCache) : Event → Option ReaderCache
  | .describe result size canSeek =>
    if cache.describePhase = .pending then cache.describe result size canSeek else none
  | .occur => if cache.describePhase = .initialized then cache.occur else none
  | .start =>
    if cache.describePhase = .occurred ∧ cache.describeResult = .ok ∧ cache.intake = .idle then
      cache.continueIntake
    else none
  | .readAt position bytesToRead =>
    if cache.inProgress = none then cache.readAt position bytesToRead else none
  | .intakeComplete result bytes =>
    match cache.intake with
    | .reading position size =>
      if bytes.length = size then cache.intakeComplete position result bytes else none
    | _ => none
  | .continueIntake => if cache.intake = .delivered then cache.continueIntake else none

end ReaderCache

end MojoMedia
