import MojoMedia.Framework.ReaderCacheAssertions

set_option autoImplicit false

namespace MojoMedia

open OrderedMap Extents MachineInt Runs

variable (change : UInt8 → UInt8)

def SparseByteBuffer.mapBytes (buffer : SparseByteBuffer) : SparseByteBuffer :=
  { buffer with regions := buffer.regions.mapValues (List.map change) }

def ReadAtRequest.mapBytes (request : ReadAtRequest) : ReadAtRequest :=
  { request with buffer := request.buffer.map change }

def Completion.mapBytes (completion : Completion) : Completion :=
  { completion with bytes := completion.bytes.map change }

def Store.mapBytes (store : Store) : Store :=
  { store with
    buffer := store.buffer.mapBytes change
    readRequest := store.readRequest.map (ReadAtRequest.mapBytes change) }

def ReaderCache.mapBytes (cache : ReaderCache) : ReaderCache :=
  { cache with
    store := cache.store.mapBytes change
    waiting := cache.waiting.map (ReadAtRequest.mapBytes change)
    completions := cache.completions.map (Completion.mapBytes change) }

def ReaderCache.Event.mapBytes : Event → Event
  | .intakeComplete result bytes => .intakeComplete result (bytes.map change)
  | event => event

namespace SparseByteBuffer

variable (buffer : SparseByteBuffer)

@[simp] theorem mapBytes_holes : (buffer.mapBytes change).holes = buffer.holes := rfl

@[simp] theorem mapBytes_regions :
    (buffer.mapBytes change).regions = buffer.regions.mapValues (List.map change) := rfl

theorem mapBytes_begun (position : Nat) :
    (buffer.mapBytes change).Begun position ↔ buffer.Begun position := by
  simp [Begun]

theorem searchRegion_mapBytes (position : Nat) :
    (buffer.mapBytes change).searchRegion position = buffer.searchRegion position := by
  apply search_mapValues
  simp

theorem findRegionContaining_mapBytes (position : Nat) (hint : Region) :
    (buffer.mapBytes change).findRegionContaining position hint =
      buffer.findRegionContaining position hint := by
  cases hint with
  | none => exact searchRegion_mapBytes change buffer position
  | some key =>
    cases there : buffer.regions.get? key with
    | none => simp [findRegionContaining, there]
    | some bytes =>
      cases following : buffer.regions.next key with
      | none => simp [findRegionContaining, there, following, searchRegion_mapBytes]
      | some later =>
        cases found : buffer.regions.get? later <;>
          simp [findRegionContaining, there, following, found, searchRegion_mapBytes]

theorem findOrCreateHole_mapBytes (position : Nat) (hint : Hole) :
    (buffer.mapBytes change).findOrCreateHole position hint =
      (buffer.findOrCreateHole position hint).map (Prod.map id (mapBytes change)) := by
  have chosen : (buffer.mapBytes change).chooseHole position hint =
      buffer.chooseHole position hint := rfl
  simp only [findOrCreateHole, chosen, mapBytes_holes, Option.bind_eq_bind]
  cases buffer.chooseHole position hint with
  | none => rfl
  | some key =>
    cases found : buffer.holes.get? key with
    | none => simp [found]
    | some size =>
      simp only [Option.bind_some, found]
      split <;> rfl

theorem fill_mapBytes (hole : Hole) (bytes : List UInt8) :
    (buffer.mapBytes change).fill hole (bytes.map change) =
      (buffer.fill hole bytes).map (Prod.map id (mapBytes change)) := by
  simp only [fill, mapBytes_holes, mapBytes_regions, List.length_map, Option.bind_eq_bind]
  cases hole with
  | none => rfl
  | some position =>
    cases found : buffer.holes.get? position with
    | none => simp [found]
    | some size =>
      simp only [Option.bind_some, found]
      cases removeFilled bytes.length buffer.holes (some position) bytes.length with
      | none => rfl
      | some removed => simp [mapBytes, mapValues_insert]

end SparseByteBuffer

theorem ReadAtRequest.copyFrom_mapBytes (request : ReadAtRequest) (source : List UInt8) :
    (request.mapBytes change).copyFrom (source.map change) =
      (request.copyFrom source).mapBytes change := by
  simp [copyFrom, mapBytes]

namespace Store

theorem bytesAt_map (key : Nat) (bytes : List UInt8) (position count : Nat) :
    bytesAt key (bytes.map change) position count =
      (bytesAt key bytes position count).map (List.map change) := by
  simp only [bytesAt, List.length_map]
  split
  next => simp [List.map_take, List.map_drop]
  next => rfl

def mapOutcome (outcome : Store × Option Completion) : Store × Option Completion :=
  (outcome.1.mapBytes change, outcome.2.map (Completion.mapBytes change))

theorem askIntake_mapBytes (store : Store) :
    (store.mapBytes change).askIntake = store.askIntake.map (mapBytes change) := by
  simp only [askIntake, mapBytes, SparseByteBuffer.findOrCreateHole_mapBytes, Option.bind_eq_bind,
    Option.map_bind, Option.bind_map]
  rfl

theorem serveLoop_mapBytes (fuel : Nat) (store : Store) (request : ReadAtRequest) :
    serveLoop fuel (store.mapBytes change) (request.mapBytes change) =
      (serveLoop fuel store request).map fun served =>
        (served.1, served.2.1.mapBytes change, served.2.2.mapBytes change) := by
  induction fuel generalizing store request with
  | zero =>
    rw [serveLoop, serveLoop]
    by_cases finished : store.result ≠ .ok ∨ store.readRequestRemainingBytes = 0
    · rw [if_pos finished, if_pos (by exact finished)]
      rfl
    · rw [if_neg finished, if_neg (by exact finished)]
      rfl
  | succ fuel ih =>
    have found : (store.mapBytes change).buffer.findRegionContaining
        (store.mapBytes change).readRequestPosition (store.mapBytes change).readRegion =
        store.buffer.findRegionContaining store.readRequestPosition store.readRegion :=
      SparseByteBuffer.findRegionContaining_mapBytes change _ _ _
    rw [serveLoop, serveLoop, found]
    by_cases finished : store.result ≠ .ok ∨ store.readRequestRemainingBytes = 0
    · rw [if_pos finished, if_pos (by exact finished)]
      rfl
    · rw [if_neg finished, if_neg (by exact finished)]
      cases store.buffer.findRegionContaining store.readRequestPosition store.readRegion with
      | none => rfl
      | some region =>
        cases region with
        | none =>
          simp only [Option.bind_eq_bind, Option.bind_some, askIntake_mapBytes, Option.bind_map]
          cases store.askIntake <;> rfl
        | some key =>
          have there : (store.mapBytes change).buffer.regions.get? key =
              (store.buffer.regions.get? key).map (List.map change) :=
            get?_mapValues _ _ _
          simp only [Option.bind_eq_bind, Option.bind_some, there]
          cases store.buffer.regions.get? key with
          | none => rfl
          | some bytes =>
            simp only [Option.map_some, Option.bind_some, List.length_map, bytesAt_map]
            have samePosition : (store.mapBytes change).readRequestPosition =
                store.readRequestPosition := rfl
            have sameRemaining : (store.mapBytes change).readRequestRemainingBytes =
                store.readRequestRemainingBytes := rfl
            rw [samePosition, sameRemaining]
            cases bytesAt key bytes store.readRequestPosition
                (min (subU64 (key + bytes.length) store.readRequestPosition)
                  store.readRequestRemainingBytes) with
            | none => rfl
            | some source =>
              simp only [Option.map_some, Option.bind_some, ReadAtRequest.copyFrom_mapBytes]
              exact ih (store.advance key _) (request.copyFrom source)

theorem serveRequest_mapBytes (store : Store) :
    (store.mapBytes change).serveRequest = store.serveRequest.map (mapOutcome change) := by
  cases asked : store.readRequest with
  | none => simp [serveRequest, mapBytes, asked]
  | some request =>
    have mapped : (store.mapBytes change).readRequest = some (request.mapBytes change) := by
      simp [mapBytes, asked]
    have looped := serveLoop_mapBytes change store.readRequestRemainingBytes store request
    simp only [serveRequest, asked, mapped, Option.bind_eq_bind, Option.bind_some]
    rw [show (store.mapBytes change).readRequestRemainingBytes =
      store.readRequestRemainingBytes from rfl, looped]
    cases serveLoop store.readRequestRemainingBytes store request with
    | none => rfl
    | some served =>
      obtain ⟨done, next, left⟩ := served
      cases done <;> rfl

theorem setReadAtRequest_mapBytes (store : Store) (request : ReadAtRequest) :
    (store.mapBytes change).setReadAtRequest (request.mapBytes change) =
      (store.setReadAtRequest request).map (mapOutcome change) := by
  rw [setReadAtRequest, setReadAtRequest, ← serveRequest_mapBytes]
  rfl

theorem serveIfAsked_mapBytes (store : Store) :
    (store.mapBytes change).serveIfAsked = store.serveIfAsked.map (mapOutcome change) := by
  simp only [serveIfAsked, serveRequest_mapBytes]
  cases asked : store.readRequest with
  | none => simp [mapBytes, asked, mapOutcome]
  | some request => simp [mapBytes, asked]

theorem putIntakeBuffer_mapBytes (store : Store) (position : Nat) (bytes : List UInt8) :
    (store.mapBytes change).putIntakeBuffer position (bytes.map change) =
      (store.putIntakeBuffer position bytes).map (mapOutcome change) := by
  have filled : (store.mapBytes change).buffer.fill (store.mapBytes change).intakeHole
      (bytes.map change) = _ := SparseByteBuffer.fill_mapBytes change store.buffer _ bytes
  simp only [putIntakeBuffer, filled, List.length_map, Option.bind_eq_bind, Option.bind_map,
    Option.map_bind]
  congr 1
  funext found
  simp only [Function.comp_apply, ← serveIfAsked_mapBytes]
  rfl

theorem reportIntakeError_mapBytes (store : Store) (result : Result) :
    (store.mapBytes change).reportIntakeError result =
      (store.reportIntakeError result).map (mapOutcome change) := by
  rw [reportIntakeError, reportIntakeError, ← serveIfAsked_mapBytes]
  rfl

theorem getIntakePositionAndSize_mapBytes (store : Store) :
    (store.mapBytes change).getIntakePositionAndSize =
      store.getIntakePositionAndSize.map (Prod.map id (mapBytes change)) := by
  have read : (store.mapBytes change).readHole = store.readHole := rfl
  have intake : (store.mapBytes change).intakeHole = store.intakeHole := rfl
  simp only [getIntakePositionAndSize, read, intake]
  cases store.readHole with
  | some key =>
    simp only [mapBytes, SparseByteBuffer.mapBytes_holes, Option.bind_eq_bind, Option.map_bind]
    rfl
  | none =>
    cases store.intakeHole with
    | some key =>
      simp only [mapBytes, SparseByteBuffer.mapBytes_holes, Option.bind_eq_bind, Option.map_bind]
      rfl
    | none => rfl

end Store

namespace ReaderCache

theorem served_mapBytes (cache : ReaderCache) (outcome : Store × Option Completion) :
    (cache.mapBytes change).served (Store.mapOutcome change outcome) =
      (cache.served outcome).mapBytes change := by
  simp [served, mapBytes, Store.mapOutcome, Option.toList_map]

theorem describe_mapBytes (cache : ReaderCache) (result : Result) (size : Nat) (canSeek : Bool) :
    (cache.mapBytes change).describe result size canSeek =
      (cache.describe result size canSeek).map (mapBytes change) := by
  simp only [describe, Store.initialized, Option.bind_eq_bind, Option.map_bind, Option.bind_assoc]
  congr 1

theorem occur_mapBytes (cache : ReaderCache) :
    (cache.mapBytes change).occur = cache.occur.map (mapBytes change) := by
  cases asked : cache.waiting with
  | none => simp [occur, mapBytes, asked]
  | some request =>
    have mapped : (cache.mapBytes change).waiting = some (request.mapBytes change) := by
      simp [mapBytes, asked]
    have store : (cache.mapBytes change).store = cache.store.mapBytes change := rfl
    simp only [occur, asked, mapped, store, Store.setReadAtRequest_mapBytes, Option.bind_eq_bind,
      Option.bind_map, Option.map_bind]
    congr 1
    funext outcome
    simp only [Function.comp_apply, Option.map_some, ← served_mapBytes]
    rfl

theorem readAt_mapBytes (cache : ReaderCache) (position bytesToRead : Nat) :
    (cache.mapBytes change).readAt position bytesToRead =
      (cache.readAt position bytesToRead).map (mapBytes change) := by
  have fresh : (ReadAtRequest.started position bytesToRead).mapBytes change =
      .started position bytesToRead := rfl
  have store : (cache.mapBytes change).store = cache.store.mapBytes change := rfl
  have phase : (cache.mapBytes change).describePhase = cache.describePhase := rfl
  simp only [readAt, phase]
  split
  next =>
    have served :=
      Store.setReadAtRequest_mapBytes change cache.store (.started position bytesToRead)
    rw [fresh] at served
    simp only [store, served, Option.bind_eq_bind, Option.bind_map, Option.map_bind]
    congr 1
    funext outcome
    simp only [Function.comp_apply, Option.map_some, ← served_mapBytes]
    rfl
  next => rfl

theorem intakeComplete_mapBytes (cache : ReaderCache) (position : Nat) (result : Result)
    (bytes : List UInt8) :
    (cache.mapBytes change).intakeComplete position result (bytes.map change) =
      (cache.intakeComplete position result bytes).map (mapBytes change) := by
  have store : (cache.mapBytes change).store = cache.store.mapBytes change := rfl
  simp only [intakeComplete, store, Store.putIntakeBuffer_mapBytes,
    Store.reportIntakeError_mapBytes]
  split
  next =>
    simp only [Option.bind_eq_bind, Option.bind_map, Option.map_bind]
    congr 1
    funext outcome
    simp only [Function.comp_apply, Option.map_some, ← served_mapBytes]
    rfl
  next =>
    simp only [Option.bind_eq_bind, Option.bind_map, Option.map_bind]
    congr 1
    funext outcome
    simp only [Function.comp_apply, Option.map_some, ← served_mapBytes]
    rfl

theorem continueIntake_mapBytes (cache : ReaderCache) :
    (cache.mapBytes change).continueIntake = cache.continueIntake.map (mapBytes change) := by
  have store : (cache.mapBytes change).store = cache.store.mapBytes change := rfl
  simp only [continueIntake, store, Store.getIntakePositionAndSize_mapBytes, Option.bind_eq_bind,
    Option.bind_map, Option.map_bind]
  congr 1
  funext outcome
  obtain ⟨next, after⟩ := outcome
  cases next <;> rfl

theorem inProgress_mapBytes (cache : ReaderCache) :
    (cache.mapBytes change).inProgress = cache.inProgress.map (ReadAtRequest.mapBytes change) := by
  cases asked : cache.waiting <;> simp [inProgress, mapBytes, Store.mapBytes, asked]

theorem weight_mapBytes (cache : ReaderCache) : (cache.mapBytes change).weight = cache.weight := by
  have request (waiting : Option ReadAtRequest) :
      (waiting.map (ReadAtRequest.mapBytes change)).elim 0 ReadAtRequest.originalBytesToRead =
        waiting.elim 0 ReadAtRequest.originalBytesToRead := by
    cases waiting <;> rfl
  simp only [weight, mapBytes, request]
  rfl

theorem step_mapBytes (cache : ReaderCache) (event : Event) :
    step (cache.mapBytes change) (event.mapBytes change) =
      (step cache event).map (mapBytes change) := by
  cases event with
  | describe result size canSeek =>
    simp only [Event.mapBytes, step, describe_mapBytes]
    by_cases pending : cache.describePhase = .pending
    · rw [if_pos pending, if_pos (by exact pending)]
    · rw [if_neg pending, if_neg (by exact pending)]
      rfl
  | occur =>
    simp only [Event.mapBytes, step, occur_mapBytes]
    by_cases initialized : cache.describePhase = .initialized
    · rw [if_pos initialized, if_pos (by exact initialized)]
    · rw [if_neg initialized, if_neg (by exact initialized)]
      rfl
  | start =>
    simp only [Event.mapBytes, step, continueIntake_mapBytes]
    by_cases ready : cache.describePhase = .occurred ∧ cache.describeResult = .ok ∧
        cache.intake = .idle
    · rw [if_pos ready, if_pos (by exact ready)]
    · rw [if_neg ready, if_neg (by exact ready)]
      rfl
  | readAt position bytesToRead =>
    simp only [Event.mapBytes, step, readAt_mapBytes, inProgress_mapBytes, Option.map_eq_none_iff]
    split <;> rfl
  | intakeComplete result bytes =>
    have intake : (cache.mapBytes change).intake = cache.intake := rfl
    simp only [Event.mapBytes, step, intake, List.length_map, intakeComplete_mapBytes]
    split
    next => split <;> rfl
    next => rfl
  | continueIntake =>
    simp only [Event.mapBytes, step, continueIntake_mapBytes]
    by_cases delivered : cache.intake = .delivered
    · rw [if_pos delivered, if_pos (by exact delivered)]
    · rw [if_neg delivered, if_neg (by exact delivered)]
      rfl

end ReaderCache

end MojoMedia
