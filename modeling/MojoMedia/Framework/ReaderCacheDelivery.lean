import MojoMedia.Shared.Runs
import MojoMedia.Framework.ReaderCacheInvariant

set_option autoImplicit false

namespace MojoMedia.ReaderCache

open OrderedMap Extents MachineInt Runs

def Allowed (asset : List UInt8) (cache : ReaderCache) : Event → Prop
  | .describe result size _ =>
    cache.describePhase = .pending ∧ result = .ok ∧ size = asset.length
  | .occur => cache.describePhase = .initialized
  | .start => cache.describePhase = .occurred ∧ cache.intake = .idle
  | .readAt position bytesToRead =>
    cache.inProgress = none ∧ position < asset.length ∧ 0 < bytesToRead
  | .intakeComplete result bytes =>
    match cache.intake with
    | .reading position size => result = .ok ∧ bytes = slice asset position size
    | _ => False
  | .continueIntake => cache.intake = .delivered

instance decidableAllowed (asset : List UInt8) (cache : ReaderCache) :
    (event : Event) → Decidable (Allowed asset cache event)
  | .describe _ _ _ => inferInstanceAs (Decidable (_ ∧ _ ∧ _))
  | .occur => inferInstanceAs (Decidable (_ = _))
  | .start => inferInstanceAs (Decidable (_ ∧ _))
  | .readAt _ _ => inferInstanceAs (Decidable (_ ∧ _ ∧ _))
  | .intakeComplete result bytes =>
    match intakeIs : cache.intake with
    | .reading position size =>
      decidable_of_iff (result = .ok ∧ bytes = slice asset position size)
        (by simp [Allowed, intakeIs])
    | .idle => isFalse (by simp [Allowed, intakeIs])
    | .delivered => isFalse (by simp [Allowed, intakeIs])
    | .stopped => isFalse (by simp [Allowed, intakeIs])
  | .continueIntake => inferInstanceAs (Decidable (_ = _))

def FindsRegion (cache : ReaderCache) : Event → Prop
  | .readAt position bytesToRead =>
    position + bytesToRead < 2 ^ 64 ∧
      (cache.describePhase = .occurred → cache.store.buffer.Begun position)
  | _ => True

instance decidableFindsRegion (cache : ReaderCache) :
    (event : Event) → Decidable (FindsRegion cache event)
  | .readAt _ _ => inferInstanceAs (Decidable (_ ∧ (_ → _)))
  | .describe _ _ _ => isTrue trivial
  | .occur => isTrue trivial
  | .start => isTrue trivial
  | .intakeComplete _ _ => isTrue trivial
  | .continueIntake => isTrue trivial

def Readable (asset : List UInt8) (request : ReadAtRequest) : Prop :=
  ∃ position bytesToRead, request = .started position bytesToRead ∧ position < asset.length ∧
    0 < bytesToRead ∧ position + bytesToRead < 2 ^ 64

def PhaseInv (asset : List UInt8) (cache : ReaderCache) : DescribePhase → Prop
  | .pending => cache.store.readRequest = none ∧ cache.intake = .idle ∧
      ∀ request ∈ cache.waiting, Readable asset request
  | .initialized => cache.store.readRequest = none ∧ cache.intake = .idle ∧
      cache.describeResult = .ok ∧ cache.store.Running asset .idle ∧
      ∀ request ∈ cache.waiting, Readable asset request
  | .occurred => cache.waiting = none ∧ cache.describeResult = .ok ∧
      cache.store.Running asset cache.intake

structure Inv (asset : List UInt8) (cache : ReaderCache) : Prop where
  exactly : ∀ completion ∈ cache.completions, completion.Exact asset
  conserved : cache.completions.map Completion.request ++
    cache.inProgress.toList.map ReadAtRequest.request = cache.requests
  phase : PhaseInv asset cache cache.describePhase

def weight (cache : ReaderCache) : Nat :=
  match cache.describePhase, cache.intake with
  | .pending, _ => 4 * (cache.waiting.elim 0 ReadAtRequest.originalBytesToRead) + 3
  | .initialized, _ => 4 * (cache.waiting.elim 0 ReadAtRequest.originalBytesToRead) + 2
  | .occurred, .reading position size =>
    4 * cache.store.readRequestRemainingBytes +
      if position ≤ cache.store.readRequestPosition ∧
        cache.store.readRequestPosition < position + size then 0 else 2
  | .occurred, _ => 4 * cache.store.readRequestRemainingBytes + 1

def Advances (cache next : ReaderCache) : Prop :=
  cache.inProgress ≠ none → cache.completions.length < next.completions.length ∨
    next.completions = cache.completions ∧ next.inProgress ≠ none ∧ next.weight < cache.weight

variable {asset : List UInt8} {cache : ReaderCache}

theorem inv_served {outcome : Store × Option Completion} {pending : List (Nat × Nat)}
    (exactly : ∀ completion ∈ cache.completions, completion.Exact asset)
    (occurred : cache.describePhase = .occurred) (noneWaiting : cache.waiting = none)
    (described : cache.describeResult = .ok) (running : outcome.1.Running asset cache.intake)
    (conveys : Store.Conveys asset pending outcome)
    (conserved : cache.completions.map Completion.request ++ pending = cache.requests) :
    Inv asset (cache.served outcome) := by
  refine ⟨?_, ?_, ?_⟩
  · intro completion member
    rcases List.mem_append.mp member with before | now
    · exact exactly completion before
    · exact conveys.exactly completion (by simpa using now)
  · simp only [served, inProgress, noneWaiting, Option.none_or, List.map_append, List.append_assoc,
      conveys.conserved]
    exact conserved
  · simp only [served, occurred]
    exact ⟨noneWaiting, described, running⟩

theorem served_inProgress (cache : ReaderCache) {outcome : Store × Option Completion}
    {request : Nat × Nat} (conveys : Store.Conveys asset [request] outcome) :
    cache.completions.length < (cache.served outcome).completions.length ∨
      outcome.2 = none ∧ (cache.served outcome).completions = cache.completions ∧
        (cache.served outcome).inProgress ≠ none := by
  obtain ⟨store, completion⟩ := outcome
  cases completion with
  | some completion =>
    left
    simp [served]
  | none =>
    refine .inr ⟨rfl, by simp [served], ?_⟩
    intro nothing
    have conserved := conveys.conserved
    simp only [served, inProgress, Option.or_eq_none_iff] at nothing
    simp [nothing.2] at conserved

theorem findHole_initialized (size : Nat) :
    (SparseByteBuffer.initialized size).findHoleContaining 0 = some (some 0) := by
  have there : (SparseByteBuffer.initialized size).holes.get? 0 = some size := by
    simp [SparseByteBuffer.initialized]
  rw [SparseByteBuffer.findHoleContaining, search_eq _ 0 0 size _ there (Nat.le_refl _)
    (fun _ _ _ atMost => atMost) (fun _ => by simp)]
  simp

theorem initialized_running {store : Store} (canSeek : Bool) (nonempty : 0 < asset.length)
    (fits : asset.length < 2 ^ 64) (quiet : store.readRequest = none) :
    ∃ next, store.initialized .ok asset.length canSeek = some next ∧
      next.Running asset .idle ∧ next.readRequest = none := by
  have there : (SparseByteBuffer.initialized asset.length).holes.get? 0 = some asset.length := by
    simp [SparseByteBuffer.initialized]
  have partition := SparseByteBuffer.initialized_partition asset.length nonempty fits
  have blank : (SparseByteBuffer.initialized asset.length).Blank := fun _ => rfl
  simp only [Store.initialized, findHole_initialized, Option.bind_eq_bind, Option.bind_some]
  refine ⟨_, rfl, ⟨⟨rfl, rfl, rfl, partition, ?_, by simp⟩, ⟨blank, rfl, asset.length, there⟩,
    fun _ => ⟨rfl, fun _ => trivial⟩, ?_⟩, quiet⟩
  · intro key bytes present
    rw [blank key] at present
    cases present
  · intro request asked
    cases quiet.symm.trans asked

theorem describe_spec (inv : Inv asset cache) (pending : cache.describePhase = .pending)
    (nonempty : 0 < asset.length) (fits : asset.length < 2 ^ 64) (canSeek : Bool) :
    ∃ next, cache.describe .ok asset.length canSeek = some next ∧ Inv asset next ∧
      Advances cache next := by
  obtain ⟨exactly, conserved, phase⟩ := inv
  rw [pending] at phase
  obtain ⟨quiet, idle, readable⟩ := phase
  obtain ⟨store, result, running, stillQuiet⟩ := initialized_running canSeek nonempty fits quiet
  simp only [describe, result, Option.bind_eq_bind, Option.bind_some]
  refine ⟨_, rfl, ⟨exactly, ?_, stillQuiet, idle, rfl, running, readable⟩, ?_⟩
  · simp only [inProgress, stillQuiet, quiet] at conserved ⊢
    exact conserved
  · intro asked
    refine .inr ⟨rfl, ?_, ?_⟩
    · simp only [inProgress, stillQuiet, quiet] at asked ⊢
      exact asked
    · simp only [weight, pending]
      omega

theorem occur_spec (inv : Inv asset cache) (initialized : cache.describePhase = .initialized) :
    ∃ next, cache.occur = some next ∧ Inv asset next ∧ Advances cache next := by
  obtain ⟨exactly, conserved, phase⟩ := inv
  rw [initialized] at phase
  obtain ⟨quiet, idle, described, running, readable⟩ := phase
  cases asked : cache.waiting with
  | none =>
    simp only [occur, asked]
    simp only [inProgress, asked] at conserved
    refine ⟨_, rfl, ⟨exactly, conserved, rfl, described, ?_⟩, ?_⟩
    · rw [idle]
      exact running
    · intro inProgress
      simp [ReaderCache.inProgress, asked, quiet] at inProgress
  | some request =>
    obtain ⟨position, bytesToRead, rfl, inside, positive, small⟩ := readable request asked
    obtain ⟨outcome, result, after, conveys, fewer⟩ := Store.setReadAtRequest_running running quiet
      inside positive small (.inl running.intakeReady.1)
    simp only [occur, asked, result, Option.bind_eq_bind, Option.bind_some]
    refine ⟨_, rfl, inv_served exactly rfl rfl described ?_ conveys ?_, ?_⟩
    · simp only [idle]
      exact after
    · simp only [inProgress, asked, quiet] at conserved
      exact conserved
    · intro _
      rcases served_inProgress { cache with describePhase := .occurred, waiting := none } conveys
        with done | ⟨waits, same, still⟩
      · exact .inl done
      · refine .inr ⟨same, still, ?_⟩
        have few := fewer waits
        simp only [weight, initialized, served, idle, asked, Option.elim_some,
          ReadAtRequest.started]
        omega

theorem readAt_spec (inv : Inv asset cache) {position bytesToRead : Nat}
    (free : cache.inProgress = none) (inside : position < asset.length)
    (positive : 0 < bytesToRead) (small : position + bytesToRead < 2 ^ 64)
    (begun : cache.describePhase = .occurred → cache.store.buffer.Begun position) :
    ∃ next, cache.readAt position bytesToRead = some next ∧ Inv asset next ∧
      Advances cache next := by
  obtain ⟨exactly, conserved, phase⟩ := inv
  have noAdvance (next : ReaderCache) : Advances cache next := fun asked => absurd free asked
  obtain ⟨notWaiting, notAsked⟩ := Option.or_eq_none_iff.mp free
  rw [free] at conserved
  have readable : ∀ request ∈ some (ReadAtRequest.started position bytesToRead),
      Readable asset request := by
    rintro request ⟨⟩
    exact ⟨position, bytesToRead, rfl, inside, positive, small⟩
  cases phaseIs : cache.describePhase with
  | pending =>
    rw [phaseIs] at phase
    obtain ⟨quiet, idle, -⟩ := phase
    simp only [readAt, phaseIs, reduceCtorEq, if_false]
    refine ⟨_, rfl, ⟨exactly, ?_, ?_⟩, noAdvance _⟩
    · simp only [Option.toList_none, List.map_nil, List.append_nil] at conserved
      simp [inProgress, conserved, ReadAtRequest.request, ReadAtRequest.started]
    · simp only
      exact ⟨quiet, idle, readable⟩
  | initialized =>
    rw [phaseIs] at phase
    obtain ⟨quiet, idle, described, running, -⟩ := phase
    simp only [readAt, phaseIs, reduceCtorEq, if_false]
    refine ⟨_, rfl, ⟨exactly, ?_, ?_⟩, noAdvance _⟩
    · simp only [Option.toList_none, List.map_nil, List.append_nil] at conserved
      simp [inProgress, conserved, ReadAtRequest.request, ReadAtRequest.started]
    · simp only
      exact ⟨quiet, idle, described, running, readable⟩
  | occurred =>
    rw [phaseIs] at phase
    obtain ⟨-, described, running⟩ := phase
    obtain ⟨outcome, result, after, conveys, -⟩ := Store.setReadAtRequest_running running notAsked
      inside positive small (begun phaseIs)
    simp only [readAt, phaseIs, if_true, result, Option.bind_eq_bind, Option.bind_some]
    refine ⟨_, rfl, inv_served exactly rfl notWaiting described after conveys ?_, noAdvance _⟩
    simp only [Option.toList_none, List.map_nil, List.append_nil] at conserved
    simp [conserved]

theorem continueIntake_spec (inv : Inv asset cache) (occurred : cache.describePhase = .occurred)
    (free : cache.intake = .idle ∨ cache.intake = .delivered) :
    ∃ next, cache.continueIntake = some next ∧ Inv asset next ∧ Advances cache next := by
  obtain ⟨exactly, conserved, phase⟩ := inv
  rw [occurred] at phase
  obtain ⟨notWaiting, described, running⟩ := phase
  cases asked : cache.store.readRequest with
  | none =>
    have noAdvance (next : ReaderCache) : Advances cache next := by
      intro inProgress
      simp [ReaderCache.inProgress, notWaiting, asked] at inProgress
    rcases Store.getIntake_quiet running asked free with
      ⟨position, count, result, reading⟩ | ⟨result, stopped⟩
    · simp only [continueIntake, result, Option.bind_eq_bind, Option.bind_some]
      refine ⟨_, rfl, ⟨exactly, conserved, ?_⟩, noAdvance _⟩
      simp only [occurred]
      exact ⟨notWaiting, described, reading⟩
    · simp only [continueIntake, result, Option.bind_eq_bind, Option.bind_some]
      refine ⟨_, rfl, ⟨exactly, conserved, ?_⟩, noAdvance _⟩
      simp only [occurred]
      exact ⟨notWaiting, described, stopped⟩
  | some request =>
    obtain ⟨position, count, store, result, reading, same, remaining, covers⟩ :=
      Store.getIntake_waiting running asked free
    simp only [continueIntake, result, Option.bind_eq_bind, Option.bind_some]
    refine ⟨_, rfl, ⟨exactly, ?_, ?_⟩, fun inProgress => .inr ⟨rfl, ?_, ?_⟩⟩
    · simp only [inProgress, same] at conserved ⊢
      exact conserved
    · simp only [occurred]
      exact ⟨notWaiting, described, reading⟩
    · simp only [ReaderCache.inProgress, same] at inProgress ⊢
      exact inProgress
    · simp only [Intake.Covers] at covers
      simp only [weight, occurred, remaining, if_pos covers]
      rcases free with idle | delivered
      · simp [idle]
      · simp [delivered]

theorem intakeComplete_spec (inv : Inv asset cache) (occurred : cache.describePhase = .occurred)
    {position size : Nat} (reading : cache.intake = .reading position size) :
    ∃ next, cache.intakeComplete position .ok (slice asset position size) = some next ∧
      Inv asset next ∧ Advances cache next := by
  obtain ⟨exactly, conserved, phase⟩ := inv
  rw [occurred] at phase
  obtain ⟨notWaiting, described, running⟩ := phase
  rw [reading] at running
  obtain ⟨outcome, result, after, conveys, fewer⟩ := Store.putIntakeBuffer_running running
  simp only [intakeComplete, if_true, result, Option.bind_eq_bind, Option.bind_some]
  refine ⟨_, rfl, inv_served exactly occurred notWaiting described after conveys ?_, ?_⟩
  · simp only [inProgress, notWaiting, Option.none_or] at conserved
    exact conserved
  · intro asked
    simp only [inProgress, notWaiting, Option.none_or] at asked
    obtain ⟨request, isRequest⟩ := Option.ne_none_iff_exists'.mp asked
    rw [isRequest] at conveys
    rcases served_inProgress { cache with intake := .delivered } conveys
      with done | ⟨waits, same, still⟩
    · exact .inl done
    · refine .inr ⟨same, still, ?_⟩
      obtain ⟨few, covered⟩ := fewer asked waits
      simp only [Intake.Covers] at covered
      simp only [weight, occurred, served, reading]
      split
      next covers =>
        have := covered covers
        omega
      next => omega

theorem Inv.occurred_of_intake (inv : Inv asset cache) (busy : cache.intake ≠ .idle) :
    cache.describePhase = .occurred := by
  cases phaseIs : cache.describePhase with
  | pending =>
    have phase := inv.phase
    rw [phaseIs] at phase
    exact absurd phase.2.1 busy
  | initialized =>
    have phase := inv.phase
    rw [phaseIs] at phase
    exact absurd phase.2.1 busy
  | occurred => rfl

theorem step_spec (nonempty : 0 < asset.length) (fits : asset.length < 2 ^ 64)
    (inv : Inv asset cache) (event : Event)
    (guard : Allowed asset cache event ∧ FindsRegion cache event) :
    ∃ next, step cache event = some next ∧ Inv asset next ∧ Advances cache next := by
  obtain ⟨allowed, finds⟩ := guard
  cases event with
  | describe result size canSeek =>
    obtain ⟨pending, rfl, rfl⟩ := allowed
    rw [step, if_pos pending]
    exact describe_spec inv pending nonempty fits canSeek
  | occur =>
    have initialized : cache.describePhase = .initialized := allowed
    rw [step, if_pos initialized]
    exact occur_spec inv initialized
  | start =>
    obtain ⟨occurred, idle⟩ := allowed
    have phase := inv.phase
    rw [occurred] at phase
    rw [step, if_pos ⟨occurred, phase.2.1, idle⟩]
    exact continueIntake_spec inv occurred (.inl idle)
  | readAt position bytesToRead =>
    obtain ⟨free, inside, positive⟩ := allowed
    rw [step, if_pos free]
    exact readAt_spec inv free inside positive finds.1 finds.2
  | intakeComplete result bytes =>
    cases reading : cache.intake with
    | reading position size =>
      simp only [Allowed, reading] at allowed
      obtain ⟨rfl, rfl⟩ := allowed
      have occurred := inv.occurred_of_intake (by simp [reading])
      have phase := inv.phase
      rw [occurred] at phase
      have running := phase.2.2
      rw [reading] at running
      have length := slice_length asset position size
        (running.faithful.free_inside running.intakeReady.1 running.intakeReady.2.2.2)
      simp only [step, reading, length, if_true]
      exact intakeComplete_spec inv occurred reading
    | idle => simp [Allowed, reading] at allowed
    | delivered => simp [Allowed, reading] at allowed
    | stopped => simp [Allowed, reading] at allowed
  | continueIntake =>
    have delivered : cache.intake = .delivered := allowed
    rw [step, if_pos delivered]
    exact continueIntake_spec inv (inv.occurred_of_intake (by simp [delivered])) (.inr delivered)

theorem exists_allowed (inv : Inv asset cache) (asked : cache.inProgress ≠ none) :
    ∃ event, Allowed asset cache event ∧ FindsRegion cache event := by
  have phase := inv.phase
  cases phaseIs : cache.describePhase with
  | pending => exact ⟨.describe .ok asset.length true, ⟨phaseIs, rfl, rfl⟩, trivial⟩
  | initialized => exact ⟨.occur, phaseIs, trivial⟩
  | occurred =>
    rw [phaseIs] at phase
    obtain ⟨notWaiting, -, running⟩ := phase
    cases intakeIs : cache.intake with
    | idle => exact ⟨.start, ⟨phaseIs, intakeIs⟩, trivial⟩
    | reading position size =>
      refine ⟨.intakeComplete .ok (slice asset position size), ?_, trivial⟩
      simp [Allowed, intakeIs]
    | delivered => exact ⟨.continueIntake, intakeIs, trivial⟩
    | stopped =>
      -- Without holes there is nothing left to wait for.
      simp only [inProgress, notWaiting, Option.none_or] at asked
      obtain ⟨request, isRequest⟩ := Option.ne_none_iff_exists'.mp asked
      rw [intakeIs] at running
      obtain ⟨key, size, there, -⟩ := (running.waiting request isRequest).inHole
      rw [running.intakeReady.2 key] at there
      cases there

theorem Inv.weight_le (inv : Inv asset cache) {request : ReadAtRequest}
    (asked : cache.inProgress = some request) :
    cache.weight ≤ 4 * request.originalBytesToRead + 3 := by
  have phase := inv.phase
  cases phaseIs : cache.describePhase with
  | pending =>
    rw [phaseIs] at phase
    simp only [inProgress, phase.1, Option.or_none] at asked
    simp [weight, phaseIs, asked]
  | initialized =>
    rw [phaseIs] at phase
    simp only [inProgress, phase.1, Option.or_none] at asked
    simp [weight, phaseIs, asked]
  | occurred =>
    rw [phaseIs] at phase
    obtain ⟨notWaiting, -, running⟩ := phase
    simp only [inProgress, notWaiting, Option.none_or] at asked
    have follows := (running.waiting request asked).follows
    have ends := follows.ends
    have position := follows.position
    have few : cache.store.readRequestRemainingBytes ≤ request.originalBytesToRead := by omega
    simp only [weight, phaseIs]
    split
    next => contradiction
    next => contradiction
    next => split <;> omega
    next => omega

theorem completes_within (guard : ReaderCache → Event → Prop) (invariant : ReaderCache → Prop)
    (progress : ∀ cache event, invariant cache → guard cache event →
      ∃ next, step cache event = some next ∧ invariant next ∧ Advances cache next)
    (later : List Event) (cache : ReaderCache) (holds : invariant cache)
    (asked : cache.inProgress ≠ none) (meets : Meets step guard cache later)
    (enough : cache.weight < later.length) :
    ∃ early final, early <+: later ∧ run step cache early = some final ∧
      cache.completions.length < final.completions.length := by
  induction later generalizing cache with
  | nil => simp at enough
  | cons event rest ih =>
    obtain ⟨guarded, meetsRest⟩ := meets
    obtain ⟨next, taken, kept, advances⟩ := progress cache event holds guarded
    rcases advances asked with completed | ⟨same, stillAsked, lighter⟩
    · exact ⟨[event], next, by simp, (run_cons step cache next event []).mpr ⟨next, taken, rfl⟩,
        completed⟩
    · simp only [List.length_cons] at enough
      obtain ⟨early, final, front, reached, completed⟩ :=
        ih next kept stillAsked (meetsRest next taken) (by omega)
      refine ⟨event :: early, final, List.cons_prefix_cons.mpr ⟨rfl, front⟩,
        (run_cons step cache final event early).mpr ⟨next, taken, reached⟩, ?_⟩
      rw [← same]
      exact completed

theorem inv_start : Inv asset { } := by
  refine ⟨nofun, rfl, rfl, rfl, nofun⟩

-- Every completion is exact, every request is completed or in progress, and a request in
-- progress is completed within a number of steps that its size bounds.
theorem reads_complete_exactly (asset : List UInt8) (nonempty : 0 < asset.length)
    (fits : asset.length < 2 ^ 64) (events : List Event)
    (meets : Meets step (fun cache event => Allowed asset cache event ∧ FindsRegion cache event)
      { } events) :
    ∃ cache, run step { } events = some cache ∧
      (∀ completion ∈ cache.completions, completion.Exact asset) ∧
      cache.completions.map Completion.request ++
        cache.inProgress.toList.map ReadAtRequest.request = cache.requests ∧
      ∀ request, cache.inProgress = some request →
        (∃ event, Allowed asset cache event ∧ FindsRegion cache event) ∧
        ∀ later, Meets step
            (fun cache event => Allowed asset cache event ∧ FindsRegion cache event) cache later →
          4 * request.originalBytesToRead + 3 < later.length →
          ∃ early final, early <+: later ∧ run step cache early = some final ∧
            cache.completions.length < final.completions.length := by
  obtain ⟨cache, reached, inv⟩ := run_of_step step
    (fun cache event => Allowed asset cache event ∧ FindsRegion cache event) (Inv asset)
    (fun cache event inv guard => by
      obtain ⟨next, taken, kept, -⟩ := step_spec nonempty fits inv event guard
      exact ⟨next, taken, kept⟩)
    { } events inv_start meets
  refine ⟨cache, reached, inv.exactly, inv.conserved, ?_⟩
  intro request asked
  have inProgress : cache.inProgress ≠ none := by simp [asked]
  refine ⟨exists_allowed inv inProgress, ?_⟩
  intro later meetsLater enough
  exact completes_within _ (Inv asset)
    (fun cache event inv guard => step_spec nonempty fits inv event guard) later cache inv
    inProgress meetsLater (Nat.lt_of_le_of_lt (inv.weight_le asked) enough)

def earlyRead : List Event :=
  [.readAt 1 1, .describe .ok 2 true, .occur, .start, .intakeComplete .ok [20]]

theorem early_read_twice_completes :
    ∃ cache, run step { } (earlyRead ++ [.readAt 1 5]) = some cache ∧
      (∀ completion ∈ cache.completions, completion.Exact [10, 20]) ∧
      cache.completions.map Completion.request ++
        cache.inProgress.toList.map ReadAtRequest.request = cache.requests := by
  obtain ⟨cache, reached, exactly, conserved, -⟩ := reads_complete_exactly [10, 20] (by decide)
    (by decide) (earlyRead ++ [.readAt 1 5]) (by decide +kernel)
  exact ⟨cache, reached, exactly, conserved⟩

theorem read_before_region_fails :
    Meets step (Allowed [10, 20]) { } (earlyRead ++ [.readAt 0 1]) ∧
      ((run step { } earlyRead).map fun cache =>
        cache.store.buffer.findRegionContaining 0 cache.store.readRegion) = some (some (some 1)) ∧
      run step { } (earlyRead ++ [.readAt 0 1]) = none := by
  decide +kernel

end MojoMedia.ReaderCache
