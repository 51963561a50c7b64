import MojoMedia.Common.RateInvariant
import MojoMedia.Common.LinearTransformExact

set_option autoImplicit false

namespace MojoMedia.RateControl

open Generations

structure Stopped (before after : RateControl) : Prop where
  rate : after.currentTransform.scale = { numerator := 0, denominator := 1 }
  reference : after.referencePendingChanges = []
  target : after.targetPendingChanges = []
  generation : after.generation ≠ before.generation

section Reset

variable {self : RateControl}

theorem applyPending_cancelled (now : Int64) :
    self.cancelPendingChanges.applyPendingChangesLocked now = (self.cancelPendingChanges, []) :=
  rfl

theorem next_reset_none {now : Int64}
    (overflow : self.currentTransform.doForwardTransform now = none) :
    self.next (.reset now) = self.cancelPendingChanges := by
  have same : self.cancelPendingChanges.currentTransform = self.currentTransform := rfl
  simp only [next, handle, reset, changeRate, applyPending_cancelled, same, overflow]

theorem next_reset_some {now referenceNow : Int64}
    (mapped : self.currentTransform.doForwardTransform now = some referenceNow) :
    self.next (.reset now) =
      { self.cancelPendingChanges with
        currentTransform :=
          { scale := { numerator := 0, denominator := 1 }, aZero := now, bZero := referenceNow }
        }.advanceGenerationLocked := by
  have same : self.cancelPendingChanges.currentTransform = self.currentTransform := rfl
  simp only [next, handle, reset, changeRate, applyPending_cancelled, same, mapped]

theorem reset_cancels (now : Int64) :
    (self.next (.reset now)).referencePendingChanges = [] ∧
      (self.next (.reset now)).targetPendingChanges = [] := by
  cases mapped : self.currentTransform.doForwardTransform now with
  | none =>
    rw [next_reset_none mapped]
    exact ⟨rfl, rfl⟩
  | some referenceNow =>
    rw [next_reset_some mapped]
    exact ⟨rfl, rfl⟩

theorem stopped_iff_mapped (now : Int64) :
    Stopped self (self.next (.reset now)) ↔
      (self.currentTransform.doForwardTransform now).isSome := by
  obtain ⟨reference, target⟩ := @reset_cancels self now
  cases mapped : self.currentTransform.doForwardTransform now with
  | none =>
    have kept : (self.next (.reset now)).generation = self.generation := by
      rw [next_reset_none mapped]
      rfl
    simp only [Option.isSome_none, Bool.false_eq_true, iff_false]
    exact fun stopped => stopped.generation kept
  | some referenceNow =>
    have advanced : (self.next (.reset now)).generation = bump self.generation := by
      rw [next_reset_some mapped, advanceGenerationLocked_generation]
      rfl
    simp only [Option.isSome_some, iff_true]
    refine ⟨?_, reference, target, ?_⟩
    · rw [next_reset_some mapped]
      rfl
    · rw [advanced]
      exact bump_ne_self self.generation

end Reset

theorem mapped_iff (transform : LinearTransform) (now : Int64)
    (valid : transform.scale.denominator ≠ 0) :
    (transform.doForwardTransform now).isSome ↔
      inS64 (transform.forwardExact now) ∧ ¬ transform.forwardTurnedDown now := by
  rw [transform.forward_eq now valid, LinearTransform.answer]
  split
  next inside => simpa using inside
  next outside => simpa using outside

-- After a run, `Reset` stops the clock exactly when the reference time of that moment is
-- representable and is no sum that the transform turns down.
theorem reset_stops_iff (events : List RateEvent) (now : Int64) :
    let control := events.foldl RateControl.next {}
    Stopped control (control.next (.reset now)) ↔
      inS64 (control.currentTransform.forwardExact now) ∧
        ¬ control.currentTransform.forwardTurnedDown now := by
  intro control
  rw [stopped_iff_mapped]
  exact mapped_iff control.currentTransform now (run_kept events).valid.current

theorem reset_leaves_clock_running :
    let control := [RateEvent.setCurrentQuad ⟨Int64.maxValue, 0, 1, 1⟩ 0].foldl
      RateControl.next {}
    (control.next (.reset 1)).currentTransform.scale = { numerator := 1, denominator := 1 } ∧
      ¬ Stopped control (control.next (.reset 1)) := by
  intro control
  have running : (control.next (.reset 1)).currentTransform.scale =
      { numerator := 1, denominator := 1 } := by
    decide +kernel
  refine ⟨running, fun stopped => ?_⟩
  rw [stopped.rate] at running
  exact absurd running (by decide)

end MojoMedia.RateControl
