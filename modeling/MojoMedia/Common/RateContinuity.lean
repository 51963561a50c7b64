import MojoMedia.Common.RateControl

set_option autoImplicit false

namespace MojoMedia

def Splice.Continuous (splice : Splice) : Prop :=
  match splice.change with
  | .setRate target | .atTarget target =>
    ∃ value, splice.before.doForwardTransform target = some value ∧
      splice.after.doForwardTransform target = some value
  | .atReference reference =>
    splice.after.bZero = reference ∧
      splice.before.doReverseTransform reference = some splice.after.aZero

def Change.Allowed (allowed : Int64 → Prop) (change : Change) : Prop :=
  ∀ reference, change = .atReference reference → allowed reference

def RateEvent.Allowed (allowed : Int64 → Prop) : RateEvent → Prop
  | .setRateAtReferenceTime _ _ referenceTime _ => allowed referenceTime
  | _ => True

structure Splice.Sound (allowed : Int64 → Prop) (splice : Splice) : Prop where
  scheduled : splice.change.Allowed allowed
  continuous : splice.Continuous ↔ splice.change.Allowed (· = 0)

namespace RateControl

structure Valid (allowed : Int64 → Prop) (control : RateControl) : Prop where
  current : control.currentTransform.scale.denominator ≠ 0
  reference : ∀ change ∈ control.referencePendingChanges,
    change.scale.denominator ≠ 0 ∧ change.aZero = 0 ∧ allowed change.bZero
  target : ∀ change ∈ control.targetPendingChanges, change.scale.denominator ≠ 0

section Steps

variable {allowed : Int64 → Prop} {self : RateControl}

theorem Valid.advanceGeneration (valid : Valid allowed self) :
    Valid allowed self.advanceGenerationLocked :=
  ⟨valid.current, valid.reference, valid.target⟩

theorem Valid.cancelPending (valid : Valid allowed self) :
    Valid allowed self.cancelPendingChanges :=
  ⟨valid.current, by simp [cancelPendingChanges], by simp [cancelPendingChanges]⟩

theorem continuous_at_aZero (before after : LinearTransform)
    (valid : after.scale.denominator ≠ 0)
    (value : before.doForwardTransform after.aZero = some after.bZero) :
    ∃ value, before.doForwardTransform after.aZero = some value ∧
      after.doForwardTransform after.aZero = some value :=
  ⟨after.bZero, value, after.forward_aZero valid⟩

theorem applyTarget_spec (valid : Valid allowed self) (change : LinearTransform)
    (listed : change ∈ self.targetPendingChanges) :
    Valid allowed (self.applyTarget change).1 ∧
      ∀ splice ∈ (self.applyTarget change).2, splice.Sound allowed := by
  have rest : ∀ other ∈ self.targetPendingChanges.tail, other.scale.denominator ≠ 0 :=
    fun other member => valid.target other (List.mem_of_mem_tail member)
  unfold applyTarget
  cases forward : self.currentTransform.doForwardTransform change.aZero with
  | none => exact ⟨⟨valid.current, valid.reference, rest⟩, by simp⟩
  | some nextChange =>
    refine ⟨⟨valid.target change listed, valid.reference, rest⟩, ?_⟩
    intro splice member
    obtain rfl := List.mem_singleton.mp member
    refine ⟨by simp [Change.Allowed], fun _ => by simp [Change.Allowed], fun _ => ?_⟩
    exact continuous_at_aZero self.currentTransform ⟨change.scale, change.aZero, nextChange⟩
      (valid.target change listed) forward

theorem applyReference_spec (valid : Valid allowed self) (change : LinearTransform)
    (nextChange : Int64)
    (listed : change ∈ self.referencePendingChanges)
    (reverse : self.currentTransform.doReverseTransform change.bZero = some nextChange) :
    Valid allowed (self.applyReference change nextChange).1 ∧
      ∀ splice ∈ (self.applyReference change nextChange).2, splice.Sound allowed := by
  obtain ⟨nonsingular, zero, permitted⟩ := valid.reference change listed
  refine ⟨⟨nonsingular, ?_, valid.target⟩, ?_⟩
  · exact fun other member => valid.reference other (List.mem_of_mem_tail member)
  intro splice member
  obtain rfl := List.mem_singleton.mp member
  refine ⟨?_, ?_, ?_⟩
  · rintro reference same
    obtain rfl : change.bZero = reference := by simpa using same
    exact permitted
  · rintro ⟨starts, -⟩ reference same
    obtain rfl : change.bZero = reference := by simpa using same
    exact starts.symm.trans zero
  · intro atZero
    exact ⟨zero.trans (atZero change.bZero rfl).symm, reverse⟩

theorem dueTarget_some {now age : Int64} {change : LinearTransform}
    (due : self.dueTarget now = some (change, age)) : change ∈ self.targetPendingChanges := by
  unfold dueTarget at due
  cases pending : self.targetPendingChanges with
  | nil => simp [pending] at due
  | cons front rest =>
    simp only [pending] at due
    split at due
    · obtain ⟨rfl, -⟩ : front = change ∧ _ := by simpa using due
      simp
    · simp at due

theorem dueReference_some {now nextChange age : Int64} {change : LinearTransform}
    (due : self.dueReference now = some (change, nextChange, age)) :
    change ∈ self.referencePendingChanges ∧
      self.currentTransform.doReverseTransform change.bZero = some nextChange := by
  unfold dueReference at due
  cases pending : self.referencePendingChanges with
  | nil => simp [pending] at due
  | cons front rest =>
    simp only [pending] at due
    cases reverse : self.currentTransform.doReverseTransform front.bZero with
    | none => simp [reverse] at due
    | some time =>
      simp only [reverse] at due
      split at due
      · obtain ⟨rfl, rfl, -⟩ : front = change ∧ time = nextChange ∧ _ := by simpa using due
        exact ⟨by simp, reverse⟩
      · simp at due

theorem applyNext_cases {now : Int64} {next : RateControl × List Splice}
    (taken : self.applyNext now = some next) :
    (∃ change ∈ self.targetPendingChanges, next = self.applyTarget change) ∨
    (∃ change ∈ self.referencePendingChanges, ∃ nextChange,
      self.currentTransform.doReverseTransform change.bZero = some nextChange ∧
      next = self.applyReference change nextChange) := by
  unfold applyNext at taken
  cases target : self.dueTarget now with
  | none =>
    cases reference : self.dueReference now with
    | none => simp [target, reference] at taken
    | some found =>
      obtain ⟨change, nextChange, age⟩ := found
      obtain ⟨listed, reverse⟩ := dueReference_some reference
      simp only [target, reference, Option.some.injEq] at taken
      exact .inr ⟨change, listed, nextChange, reverse, taken.symm⟩
  | some due =>
    obtain ⟨change, age⟩ := due
    have listed := dueTarget_some target
    cases reference : self.dueReference now with
    | none =>
      simp only [target, reference, Option.some.injEq] at taken
      exact .inl ⟨change, listed, taken.symm⟩
    | some found =>
      obtain ⟨other, nextChange, otherAge⟩ := found
      obtain ⟨otherListed, reverse⟩ := dueReference_some reference
      simp only [target, reference] at taken
      split at taken
      · exact .inl ⟨change, listed, (Option.some.inj taken).symm⟩
      · exact .inr ⟨other, otherListed, nextChange, reverse, (Option.some.inj taken).symm⟩

theorem applyTarget_pendingCount {change : LinearTransform}
    (listed : change ∈ self.targetPendingChanges) :
    (self.applyTarget change).1.pendingCount + 1 = self.pendingCount := by
  have positive := List.length_pos_of_mem listed
  unfold applyTarget
  cases self.currentTransform.doForwardTransform change.aZero with
  | none =>
    simp only [pendingCount, List.length_tail]
    omega
  | some time =>
    simp only [pendingCount, List.length_tail]
    omega

theorem applyReference_pendingCount {change : LinearTransform} (nextChange : Int64)
    (listed : change ∈ self.referencePendingChanges) :
    (self.applyReference change nextChange).1.pendingCount + 1 = self.pendingCount := by
  have positive := List.length_pos_of_mem listed
  simp only [applyReference, pendingCount, List.length_tail]
  omega

theorem applyNext_pendingCount {now : Int64} {next : RateControl × List Splice}
    (taken : self.applyNext now = some next) : next.1.pendingCount + 1 = self.pendingCount := by
  rcases applyNext_cases taken with ⟨change, listed, rfl⟩ | ⟨change, listed, nextChange, -, rfl⟩
  · exact applyTarget_pendingCount listed
  · exact applyReference_pendingCount nextChange listed

theorem applyAll_done (now : Int64) (turns : Nat) (enough : self.pendingCount ≤ turns) :
    (applyAll now turns self).1.applyNext now = none := by
  induction turns generalizing self with
  | zero =>
    cases taken : self.applyNext now with
    | none => simpa [applyAll] using taken
    | some next =>
      have fewer := applyNext_pendingCount taken
      omega
  | succ turns ih =>
    rw [applyAll]
    cases taken : self.applyNext now with
    | none => exact taken
    | some next =>
      have fewer := applyNext_pendingCount taken
      exact ih (by omega)

theorem applyNext_spec (valid : Valid allowed self) {now : Int64} {next : RateControl × List Splice}
    (taken : self.applyNext now = some next) :
    Valid allowed next.1 ∧ ∀ splice ∈ next.2, splice.Sound allowed := by
  rcases applyNext_cases taken with
    ⟨change, listed, rfl⟩ | ⟨change, listed, nextChange, reverse, rfl⟩
  · exact applyTarget_spec valid change listed
  · exact applyReference_spec valid change nextChange listed reverse

theorem applyAll_spec (now : Int64) (turns : Nat) (valid : Valid allowed self) :
    Valid allowed (applyAll now turns self).1 ∧
      ∀ splice ∈ (applyAll now turns self).2.2, splice.Sound allowed := by
  induction turns generalizing self with
  | zero => exact ⟨valid, by simp [applyAll]⟩
  | succ turns ih =>
    rw [applyAll]
    cases taken : self.applyNext now with
    | none => exact ⟨valid, by simp⟩
    | some next =>
      obtain ⟨nextValid, first⟩ := applyNext_spec valid taken
      obtain ⟨finalValid, later⟩ := ih nextValid
      refine ⟨finalValid, fun splice member => ?_⟩
      rcases List.mem_append.mp member with now | afterwards
      · exact first splice now
      · exact later splice afterwards

theorem applyPending_spec (now : Int64) (valid : Valid allowed self) :
    Valid allowed (self.applyPendingChangesLocked now).1 ∧
      ∀ splice ∈ (self.applyPendingChangesLocked now).2, splice.Sound allowed := by
  obtain ⟨finalValid, exact⟩ := applyAll_spec now self.pendingCount valid
  refine ⟨?_, exact⟩
  simp only [applyPendingChangesLocked]
  split
  · exact finalValid.advanceGeneration
  · exact finalValid

theorem changeRate_spec (referenceDelta targetDelta : UInt32) (now : Int64)
    (valid : Valid allowed self) (nonsingular : targetDelta ≠ 0) :
    Valid allowed (self.changeRate referenceDelta targetDelta now).1 ∧
      ∀ splice ∈ (self.changeRate referenceDelta targetDelta now).2, splice.Sound allowed := by
  obtain ⟨middleValid, earlier⟩ := applyPending_spec now valid
  unfold changeRate
  generalize self.applyPendingChangesLocked now = pending at middleValid earlier
  obtain ⟨middle, splices⟩ := pending
  simp only at middleValid earlier ⊢
  cases forward : middle.currentTransform.doForwardTransform now with
  | none => exact ⟨middleValid, earlier⟩
  | some referenceNow =>
    refine ⟨⟨nonsingular, middleValid.reference, middleValid.target⟩, fun splice member => ?_⟩
    rcases List.mem_append.mp member with before | last
    · exact earlier splice before
    · obtain rfl := List.mem_singleton.mp last
      refine ⟨by simp [Change.Allowed], fun _ => by simp [Change.Allowed], fun _ => ?_⟩
      exact continuous_at_aZero middle.currentTransform
        ⟨⟨referenceDelta, targetDelta⟩, now, referenceNow⟩ nonsingular forward

theorem reset_spec (now : Int64) (valid : Valid allowed self) :
    Valid allowed (self.reset now).1 ∧ ∀ splice ∈ (self.reset now).2, splice.Sound allowed :=
  changeRate_spec 0 1 now valid.cancelPending (by decide)

theorem handle_spec (event : RateEvent) (valid : Valid allowed self)
    (permitted : event.Allowed allowed) :
    Valid allowed (self.handle event).1 ∧
      ∀ splice ∈ (self.handle event).2, splice.Sound allowed := by
  cases event with
  | snapshot now => exact applyPending_spec now valid
  | setRate referenceDelta targetDelta now =>
    simp only [handle, setRate]
    split
    next => exact reset_spec now valid
    next nonsingular => exact changeRate_spec referenceDelta targetDelta now valid nonsingular
  | setCurrentQuad quad now =>
    simp only [handle, setCurrentQuad]
    split
    next => exact reset_spec now valid
    next nonsingular =>
      refine ⟨⟨?_, by simp [cancelPendingChanges, advanceGenerationLocked],
        by simp [cancelPendingChanges, advanceGenerationLocked]⟩, by simp⟩
      simp only [advanceGenerationLocked]
      split
      · exact Ratio.reduced_denominator _ _ nonsingular
      · decide
  | setRateAtReferenceTime referenceDelta targetDelta referenceTime now =>
    simp only [handle, setRateAtReferenceTime]
    split
    next => exact reset_spec now valid
    next nonsingular =>
      split
      · exact ⟨valid, by simp⟩
      · refine ⟨⟨valid.current, fun change member => ?_, valid.target⟩, by simp⟩
        rcases List.mem_append.mp member with old | new
        · exact valid.reference change old
        · obtain rfl := List.mem_singleton.mp new
          exact ⟨Ratio.reduced_denominator _ _ nonsingular, rfl, permitted⟩
  | setRateAtTargetTime referenceDelta targetDelta targetTime now =>
    simp only [handle, setRateAtTargetTime]
    split
    next => exact reset_spec now valid
    next nonsingular =>
      split
      · exact ⟨valid, by simp⟩
      · refine ⟨⟨valid.current, valid.reference, fun change member => ?_⟩, by simp⟩
        rcases List.mem_append.mp member with old | new
        · exact valid.target change old
        · obtain rfl := List.mem_singleton.mp new
          exact Ratio.reduced_denominator _ _ nonsingular
  | cancelPendingChanges => exact ⟨valid.cancelPending, by simp [handle]⟩
  | setTargetTimelineID id now =>
    simp only [handle, setTargetTimelineID]
    split
    · exact reset_spec now valid
    · exact ⟨valid, by simp⟩
  | reset now => exact reset_spec now valid

end Steps

theorem initial_valid (allowed : Int64 → Prop) : Valid allowed {} :=
  ⟨Ratio.reduced_denominator 0 1 (by decide), by simp, by simp⟩

end RateControl

theorem run_spec (allowed : Int64 → Prop) (events : List RateEvent)
    (permitted : ∀ event ∈ events, event.Allowed allowed) :
    ∀ splice ∈ (events.foldl RateRun.step {}).splices, splice.Sound allowed := by
  let invariant : RateRun → Prop := fun state =>
    state.control.Valid allowed ∧ ∀ splice ∈ state.splices, splice.Sound allowed
  have kept : invariant (events.foldl RateRun.step {}) := by
    refine List.foldlRecOn events RateRun.step ?_ ?_
    · exact ⟨RateControl.initial_valid allowed, by simp⟩
    · rintro state ⟨valid, sound⟩ event member
      obtain ⟨nextValid, nextSound⟩ := RateControl.handle_spec event valid (permitted event member)
      refine ⟨nextValid, fun splice listed => ?_⟩
      rcases List.mem_append.mp listed with before | now
      · exact sound splice before
      · exact nextSound splice now
  exact kept.2

-- In every run, an applied change is continuous unless it was scheduled at a reference time other
-- than zero.
theorem applied_continuous_iff (events : List RateEvent) :
    (∀ splice ∈ (events.foldl RateRun.step {}).splices,
      splice.Continuous ↔
        ∀ reference, splice.change = .atReference reference → reference = 0) ∧
    ((∀ event ∈ events, event.Allowed (· = 0)) →
      ∀ splice ∈ (events.foldl RateRun.step {}).splices, splice.Continuous) := by
  refine ⟨fun splice member => ?_, fun atZero splice member => ?_⟩
  · have anywhere : ∀ event ∈ events, event.Allowed (fun _ => True) := by
      intro event _
      cases event <;> trivial
    exact (run_spec (fun _ => True) events anywhere splice member).continuous
  · have sound := run_spec (· = 0) events atZero splice member
    exact sound.continuous.mpr sound.scheduled

theorem reduced_one : Ratio.reduced 1 1 = ⟨1, 1⟩ := by
  rw [Ratio.reduced, if_pos (by decide), reduce_eq _ _ (by decide)]
  rfl

-- Playing at the normal rate from reference time 0, a change at reference time 100
-- takes the reference time back to 0.
theorem reference_change_jumps :
    ∃ splice ∈ ([.setRate 1 1 0, .setRateAtReferenceTime 1 1 100 0, .snapshot 200].foldl
        RateRun.step {}).splices,
      splice.change = .atReference 100 ∧ splice.after.bZero = 0 ∧ ¬ splice.Continuous := by
  let playing : LinearTransform := ⟨⟨1, 1⟩, 0, 0⟩
  let first : Splice := ⟨.setRate 0, ⟨⟨0, 1⟩, 0, 0⟩, playing⟩
  have started : RateRun.step {} (.setRate 1 1 0) =
      { control := { currentTransform := playing, generation := 2 }, splices := [first] } := by
    decide
  have scheduled : RateRun.step
      { control := { currentTransform := playing, generation := 2 }, splices := [first] }
      (.setRateAtReferenceTime 1 1 100 0) =
      { control :=
          { currentTransform := playing
            referencePendingChanges := [⟨⟨1, 1⟩, 0, 100⟩]
            generation := 2 }
        splices := [first] } := by
    simp only [RateRun.step, RateControl.handle, RateControl.setRateAtReferenceTime, reduced_one]
    decide
  refine ⟨⟨.atReference 100, playing, ⟨⟨1, 1⟩, 100, 0⟩⟩, ?_, rfl, rfl, ?_⟩
  · simp only [List.foldl, started, scheduled]
    decide
  · rintro ⟨starts, -⟩
    exact absurd starts (by decide)

end MojoMedia
