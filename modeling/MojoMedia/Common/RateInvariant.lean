import MojoMedia.Common.RateContinuity
import MojoMedia.Shared.Generations
import Mathlib.Data.List.Chain

set_option autoImplicit false

namespace MojoMedia

open Generations

namespace RateControl

structure Invariant (control : RateControl) : Prop where
  current : control.currentTransform.scale.denominator ≠ 0
  referenceNonsingular : ∀ change ∈ control.referencePendingChanges, change.scale.denominator ≠ 0
  targetNonsingular : ∀ change ∈ control.targetPendingChanges, change.scale.denominator ≠ 0
  referenceIncreasing : control.referencePendingChanges.Pairwise fun earlier later =>
    earlier.bZero < later.bZero
  targetIncreasing : control.targetPendingChanges.Pairwise fun earlier later =>
    earlier.aZero < later.aZero
  generation : control.generation ≠ 0

def pendingAdvances (self : RateControl) (now : Int64) : Nat :=
  if (applyAll now self.pendingCount self).2.1 then 1 else 0

def changeRateAdvances (self : RateControl) (now : Int64) : Nat :=
  self.pendingAdvances now +
    match (self.applyPendingChangesLocked now).1.currentTransform.doForwardTransform now with
    | none => 0
    | some _ => 1

def resetAdvances (self : RateControl) (now : Int64) : Nat :=
  self.cancelPendingChanges.changeRateAdvances now

def advances (self : RateControl) : RateEvent → Nat
  | .snapshot now => self.pendingAdvances now
  | .setRate _ targetDelta now =>
    if targetDelta = 0 then self.resetAdvances now else self.changeRateAdvances now
  | .setCurrentQuad quad now => if quad.targetDelta = 0 then self.resetAdvances now else 1
  | .setRateAtReferenceTime _ targetDelta _ now =>
    if targetDelta = 0 then self.resetAdvances now else 0
  | .setRateAtTargetTime _ targetDelta _ now =>
    if targetDelta = 0 then self.resetAdvances now else 0
  | .cancelPendingChanges => 0
  | .setTargetTimelineID id now => if id ≠ kLocalTimeID then self.resetAdvances now else 0
  | .reset now => self.resetAdvances now

def next (self : RateControl) (event : RateEvent) : RateControl := (self.handle event).1

def reported (self : RateControl) (now : Int64) : LinearTransform × UInt32 :=
  let snapshot := (self.snapshotCurrentTransform now).1
  (snapshot.currentTransform, snapshot.generation)

section Generation

variable {self : RateControl}

theorem advanceGenerationLocked_generation :
    self.advanceGenerationLocked.generation = bump self.generation := by
  simp only [advanceGenerationLocked, bump]
  split
  next zero =>
    rw [zero]
    rfl
  next => rfl

theorem applyNext_generation {now : Int64} {after : RateControl × List Splice}
    (taken : self.applyNext now = some after) : after.1.generation = self.generation := by
  rcases applyNext_cases taken with ⟨change, -, rfl⟩ | ⟨change, -, nextChange, -, rfl⟩
  · unfold applyTarget
    cases self.currentTransform.doForwardTransform change.aZero with
    | none => rfl
    | some time => rfl
  · rfl

theorem applyAll_generation (now : Int64) (turns : Nat) :
    (applyAll now turns self).1.generation = self.generation := by
  induction turns generalizing self with
  | zero => rfl
  | succ turns ih =>
    rw [applyAll]
    cases taken : self.applyNext now with
    | none => rfl
    | some after => exact ih.trans (applyNext_generation taken)

theorem applyAll_still (now : Int64) (turns : Nat)
    (still : (applyAll now turns self).2.1 = false) : (applyAll now turns self).1 = self := by
  cases turns with
  | zero => rfl
  | succ turns =>
    rw [applyAll] at still ⊢
    cases taken : self.applyNext now with
    | none => rfl
    | some after => simp [taken] at still

structure Advanced (before : RateControl) (count : Nat) (after : RateControl) : Prop where
  generation : after.generation = bump^[count] before.generation
  transform : count = 0 → after.currentTransform = before.currentTransform

theorem Advanced.trans {middle after : RateControl} {first second : Nat}
    (left : Advanced self first middle) (right : Advanced middle second after) :
    Advanced self (first + second) after := by
  refine ⟨?_, fun still => ?_⟩
  · rw [right.generation, left.generation, ← Function.iterate_add_apply, Nat.add_comm]
  · rw [Nat.add_eq_zero_iff] at still
    rw [right.transform still.2, left.transform still.1]

theorem Advanced.once {after : RateControl} (same : after.generation = self.generation) :
    Advanced self 1 after.advanceGenerationLocked :=
  ⟨by rw [advanceGenerationLocked_generation, same]; rfl, by simp⟩

theorem applyPending_advanced (now : Int64) :
    Advanced self (self.pendingAdvances now) (self.applyPendingChangesLocked now).1 := by
  unfold pendingAdvances applyPendingChangesLocked
  cases flag : (applyAll now self.pendingCount self).2.1 with
  | false =>
    have still := applyAll_still now self.pendingCount flag
    simp only [flag, Bool.false_eq_true, if_false, still]
    exact ⟨rfl, fun _ => rfl⟩
  | true =>
    simp only [flag, if_true]
    exact Advanced.once (applyAll_generation now self.pendingCount)

theorem changeRate_advanced (referenceDelta targetDelta : UInt32) (now : Int64) :
    Advanced self (self.changeRateAdvances now)
      (self.changeRate referenceDelta targetDelta now).1 := by
  have pending := @applyPending_advanced self now
  unfold changeRateAdvances changeRate
  generalize self.applyPendingChangesLocked now = applied at pending
  obtain ⟨middle, splices⟩ := applied
  simp only at pending ⊢
  cases middle.currentTransform.doForwardTransform now with
  | none => exact pending
  | some referenceNow =>
    apply pending.trans
    exact Advanced.once rfl

theorem reset_advanced (now : Int64) :
    Advanced self (self.resetAdvances now) (self.reset now).1 := by
  have changed := @changeRate_advanced self.cancelPendingChanges 0 1 now
  exact ⟨changed.generation, changed.transform⟩

theorem next_advanced (event : RateEvent) :
    Advanced self (self.advances event) (self.next event) := by
  have unchanged : ∀ after : RateControl, after.generation = self.generation →
      after.currentTransform = self.currentTransform → Advanced self 0 after :=
    fun after generation transform => ⟨generation, fun _ => transform⟩
  cases event with
  | snapshot now => exact applyPending_advanced now
  | setRate referenceDelta targetDelta now =>
    simp only [next, handle, setRate, advances]
    split
    · exact reset_advanced now
    · exact changeRate_advanced referenceDelta targetDelta now
  | setCurrentQuad quad now =>
    simp only [next, handle, setCurrentQuad, advances]
    split
    · exact reset_advanced now
    · exact Advanced.once rfl
  | setRateAtReferenceTime referenceDelta targetDelta referenceTime now =>
    simp only [next, handle, setRateAtReferenceTime, advances]
    split
    · exact reset_advanced now
    · split
      · exact unchanged _ rfl rfl
      · exact unchanged _ rfl rfl
  | setRateAtTargetTime referenceDelta targetDelta targetTime now =>
    simp only [next, handle, setRateAtTargetTime, advances]
    split
    · exact reset_advanced now
    · split
      · exact unchanged _ rfl rfl
      · exact unchanged _ rfl rfl
  | cancelPendingChanges => exact unchanged _ rfl rfl
  | setTargetTimelineID id now =>
    simp only [next, handle, setTargetTimelineID, advances]
    split
    · exact reset_advanced now
    · exact unchanged _ rfl rfl
  | reset now => exact reset_advanced now

end Generation

theorem generation_counted : Counted next advances generation currentTransform :=
  ⟨fun _ event => (next_advanced event).generation,
    fun _ event => (next_advanced event).transform⟩

structure Ordered (control : RateControl) : Prop where
  reference : control.referencePendingChanges.Pairwise fun earlier later =>
    earlier.bZero < later.bZero
  target : control.targetPendingChanges.Pairwise fun earlier later =>
    earlier.aZero < later.aZero

structure Shrinks (before after : RateControl) : Prop where
  reference : after.referencePendingChanges.Sublist before.referencePendingChanges
  target : after.targetPendingChanges.Sublist before.targetPendingChanges

section Order

variable {self : RateControl}

theorem Shrinks.refl (control : RateControl) : Shrinks control control :=
  ⟨List.Sublist.refl _, List.Sublist.refl _⟩

theorem Shrinks.trans {middle after : RateControl} (left : Shrinks self middle)
    (right : Shrinks middle after) : Shrinks self after :=
  ⟨right.reference.trans left.reference, right.target.trans left.target⟩

theorem Ordered.of_shrinks {after : RateControl} (ordered : Ordered self)
    (shrinks : Shrinks self after) : Ordered after :=
  ⟨ordered.reference.sublist shrinks.reference, ordered.target.sublist shrinks.target⟩

theorem cancel_shrinks : Shrinks self self.cancelPendingChanges :=
  ⟨List.nil_sublist _, List.nil_sublist _⟩

theorem applyNext_shrinks {now : Int64} {after : RateControl × List Splice}
    (taken : self.applyNext now = some after) : Shrinks self after.1 := by
  rcases applyNext_cases taken with ⟨change, -, rfl⟩ | ⟨change, -, nextChange, -, rfl⟩
  · unfold applyTarget
    cases self.currentTransform.doForwardTransform change.aZero with
    | none => exact ⟨List.Sublist.refl _, List.tail_sublist _⟩
    | some time => exact ⟨List.Sublist.refl _, List.tail_sublist _⟩
  · exact ⟨List.tail_sublist _, List.Sublist.refl _⟩

theorem applyAll_shrinks (now : Int64) (turns : Nat) :
    Shrinks self (applyAll now turns self).1 := by
  induction turns generalizing self with
  | zero => exact Shrinks.refl self
  | succ turns ih =>
    rw [applyAll]
    cases taken : self.applyNext now with
    | none => exact Shrinks.refl self
    | some after => exact (applyNext_shrinks taken).trans ih

theorem applyPending_shrinks (now : Int64) :
    Shrinks self (self.applyPendingChangesLocked now).1 := by
  have applied := @applyAll_shrinks self now self.pendingCount
  simp only [applyPendingChangesLocked]
  split
  · exact ⟨applied.reference, applied.target⟩
  · exact applied

theorem changeRate_shrinks (referenceDelta targetDelta : UInt32) (now : Int64) :
    Shrinks self (self.changeRate referenceDelta targetDelta now).1 := by
  have pending := @applyPending_shrinks self now
  unfold changeRate
  generalize self.applyPendingChangesLocked now = applied at pending
  obtain ⟨middle, splices⟩ := applied
  simp only at pending ⊢
  cases middle.currentTransform.doForwardTransform now with
  | none => exact pending
  | some referenceNow => exact ⟨pending.reference, pending.target⟩

theorem reset_shrinks (now : Int64) : Shrinks self (self.reset now).1 :=
  cancel_shrinks.trans (changeRate_shrinks 0 1 now)

theorem pairwise_concat (time : LinearTransform → Int64) (queue : List LinearTransform)
    (change : LinearTransform)
    (ordered : queue.Pairwise fun earlier later => time earlier < time later)
    (behind : queue.getLast?.any (fun last => time change ≤ time last) = false) :
    (queue ++ [change]).Pairwise fun earlier later => time earlier < time later := by
  have transitive : Trans (fun earlier later => time earlier < time later)
      (fun earlier later => time earlier < time later)
      (fun earlier later : LinearTransform => time earlier < time later) :=
    ⟨fun first second => Int64.lt_trans first second⟩
  rw [← List.isChain_iff_pairwise] at ordered ⊢
  refine List.isChain_append.mpr ⟨ordered, List.IsChain.singleton _, ?_⟩
  intro last listed other new
  obtain rfl : change = other := by simpa using new
  rw [Option.mem_def.mp listed] at behind
  exact Int64.not_le.mp (by simpa using behind)

theorem next_ordered (event : RateEvent) (ordered : Ordered self) : Ordered (self.next event) := by
  cases event with
  | snapshot now => exact ordered.of_shrinks (applyPending_shrinks now)
  | setRate referenceDelta targetDelta now =>
    simp only [next, handle, setRate]
    split
    · exact ordered.of_shrinks (reset_shrinks now)
    · exact ordered.of_shrinks (changeRate_shrinks referenceDelta targetDelta now)
  | setCurrentQuad quad now =>
    simp only [next, handle, setCurrentQuad]
    split
    · exact ordered.of_shrinks (reset_shrinks now)
    · exact ⟨List.Pairwise.nil, List.Pairwise.nil⟩
  | setRateAtReferenceTime referenceDelta targetDelta referenceTime now =>
    simp only [next, handle, setRateAtReferenceTime]
    split
    · exact ordered.of_shrinks (reset_shrinks now)
    · split
      next => exact ordered
      next behind =>
        refine ⟨?_, ordered.target⟩
        apply pairwise_concat LinearTransform.bZero _ _ ordered.reference
        exact Bool.eq_false_iff.mpr behind
  | setRateAtTargetTime referenceDelta targetDelta targetTime now =>
    simp only [next, handle, setRateAtTargetTime]
    split
    · exact ordered.of_shrinks (reset_shrinks now)
    · split
      next => exact ordered
      next behind =>
        refine ⟨ordered.reference, ?_⟩
        apply pairwise_concat LinearTransform.aZero _ _ ordered.target
        exact Bool.eq_false_iff.mpr behind
  | cancelPendingChanges => exact ordered.of_shrinks cancel_shrinks
  | setTargetTimelineID id now =>
    simp only [next, handle, setTargetTimelineID]
    split
    · exact ordered.of_shrinks (reset_shrinks now)
    · exact ordered
  | reset now => exact ordered.of_shrinks (reset_shrinks now)

end Order

-- What a run keeps. `Valid` also says what reference scheduled changes carry as their
-- target time, which the loop installs.
structure Kept (control : RateControl) : Prop where
  valid : Valid (fun _ => True) control
  ordered : Ordered control
  generation : control.generation ≠ 0

theorem Kept.next {control : RateControl} (kept : Kept control) (event : RateEvent) :
    Kept (control.next event) := by
  have anywhere : event.Allowed (fun _ => True) := by cases event <;> trivial
  refine ⟨(handle_spec event kept.valid anywhere).1, next_ordered event kept.ordered, ?_⟩
  rw [(next_advanced event).generation]
  exact iterate_bump_ne_zero _ kept.generation _

theorem run_kept (events : List RateEvent) : Kept (events.foldl RateControl.next {}) := by
  refine List.foldlRecOn events RateControl.next ?_ ?_
  · exact ⟨initial_valid _, ⟨List.Pairwise.nil, List.Pairwise.nil⟩, by decide⟩
  · exact fun control kept event _ => kept.next event

theorem Kept.invariant {control : RateControl} (kept : Kept control) : Invariant control where
  current := kept.valid.current
  referenceNonsingular change listed := (kept.valid.reference change listed).1
  targetNonsingular := kept.valid.target
  referenceIncreasing := kept.ordered.reference
  targetIncreasing := kept.ordered.target
  generation := kept.generation

-- After every run, whatever the local times are, the transform and the pending changes are not
-- singular, the queues are strictly increasing and the generation is not zero. Two snapshots with
-- fewer advances between them than there are generations report one generation only for one
-- transform.
theorem run_invariant_and_snapshots :
    (∀ events : List RateEvent, Invariant (events.foldl RateControl.next {})) ∧
    ∀ (before between : List RateEvent) (now later : Int64),
      let first := before.foldl RateControl.next {}
      let second := between.foldl RateControl.next (first.next (.snapshot now))
      total RateControl.next advances (first.next (.snapshot now))
          (between ++ [.snapshot later]) < 2 ^ 32 - 1 →
        (first.reported now).2 = (second.reported later).2 →
        (first.reported now).1 = (second.reported later).1 := by
  refine ⟨fun events => (run_kept events).invariant, ?_⟩
  intro before between now later first second few same
  have valid : (first.next (.snapshot now)).generation ≠ 0 :=
    ((run_kept before).next (.snapshot now)).generation
  have afterwards : (between ++ [RateEvent.snapshot later]).foldl RateControl.next
      (first.next (.snapshot now)) = second.next (.snapshot later) := by
    rw [List.foldl_append]
    rfl
  have coherent := generation_counted.same_value _ (between ++ [.snapshot later]) valid few
  rw [afterwards] at coherent
  exact (coherent same.symm).symm

theorem two_snapshots_of_one_rate :
    let first := [RateEvent.setRate 1 1 0].foldl RateControl.next {}
    let second := [RateEvent.cancelPendingChanges].foldl RateControl.next
      (first.next (.snapshot 10))
    (first.reported 10).2 = (second.reported 20).2 ∧
      (first.reported 10).1 = (second.reported 20).1 := by
  have same : (([RateEvent.setRate 1 1 0].foldl RateControl.next {}).reported 10).2 =
      (([RateEvent.cancelPendingChanges].foldl RateControl.next
        (([RateEvent.setRate 1 1 0].foldl RateControl.next {}).next (.snapshot 10))).reported
          20).2 := by
    decide
  exact ⟨same, run_invariant_and_snapshots.2 [.setRate 1 1 0] [.cancelPendingChanges] 10 20
    (by decide) same⟩

end RateControl

end MojoMedia
