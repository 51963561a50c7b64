import MojoMedia.Common.LinearTransformExact
import MojoMedia.Common.RateContinuity
import MojoMedia.Shared.Schedules

set_option autoImplicit false

namespace MojoMedia

namespace RateControl

def nextTarget (self : RateControl) : Option (LinearTransform × Int64) :=
  self.targetPendingChanges.head?.map fun change => (change, change.aZero)

def nextReference (self : RateControl) : Option (LinearTransform × Int64) :=
  self.referencePendingChanges.head?.bind fun change =>
    (self.currentTransform.doReverseTransform change.bZero).map fun nextChange =>
      (change, nextChange)

def nextChange (self : RateControl) : Option (Int64 × RateControl × List Splice) :=
  match self.nextTarget, self.nextReference with
  | some (target, targetTime), some (reference, referenceTime) =>
    if targetTime ≤ referenceTime then some (targetTime, self.applyTarget target)
    else some (referenceTime, self.applyReference reference referenceTime)
  | some (target, targetTime), none => some (targetTime, self.applyTarget target)
  | none, some (reference, referenceTime) =>
    some (referenceTime, self.applyReference reference referenceTime)
  | none, none => none

section Next

variable (self : RateControl) (now : Int64)

theorem dueTarget_eq : self.dueTarget now = self.nextTarget.bind fun (change, time) =>
    if time ≤ now then some (change, now - time) else none := by
  unfold dueTarget nextTarget
  cases self.targetPendingChanges with
  | nil => rfl
  | cons front rest => rfl

theorem dueReference_eq : self.dueReference now = self.nextReference.bind fun (change, time) =>
    if time ≤ now then some (change, time, now - time) else none := by
  unfold dueReference nextReference
  cases self.referencePendingChanges with
  | nil => rfl
  | cons front rest =>
    simp only [List.head?_cons, Option.bind_some]
    cases self.currentTransform.doReverseTransform front.bZero with
    | none => rfl
    | some time => rfl

def AgesFit : Prop :=
  (∀ target ∈ self.nextTarget, target.2 ≤ now → inS64 (now.toInt - target.2.toInt)) ∧
    ∀ reference ∈ self.nextReference, reference.2 ≤ now →
      inS64 (now.toInt - reference.2.toInt)

instance : Decidable (self.AgesFit now) := inferInstanceAs (Decidable (_ ∧ _))

variable {self now}

theorem nextTarget_listed {change : LinearTransform} {time : Int64}
    (found : self.nextTarget = some (change, time)) : change ∈ self.targetPendingChanges := by
  obtain ⟨front, head, same⟩ := Option.map_eq_some_iff.mp found
  obtain ⟨rfl, -⟩ := Prod.mk.inj same
  exact List.mem_of_mem_head? head

theorem nextReference_listed {change : LinearTransform} {time : Int64}
    (found : self.nextReference = some (change, time)) :
    change ∈ self.referencePendingChanges := by
  obtain ⟨front, head, reverse⟩ := Option.bind_eq_some_iff.mp found
  obtain ⟨nextChange, -, same⟩ := Option.map_eq_some_iff.mp reverse
  obtain ⟨rfl, -⟩ := Prod.mk.inj same
  exact List.mem_of_mem_head? head

theorem nextChange_cases {time : Int64} {step : RateControl × List Splice}
    (found : self.nextChange = some (time, step)) :
    (∃ change ∈ self.targetPendingChanges, step = self.applyTarget change) ∨
    ∃ change ∈ self.referencePendingChanges, ∃ nextChange,
      step = self.applyReference change nextChange := by
  unfold nextChange at found
  cases first : self.nextTarget with
  | none =>
    cases second : self.nextReference with
    | none => simp [first, second] at found
    | some reference =>
      simp only [first, second, Option.some.injEq, Prod.mk.injEq] at found
      exact .inr ⟨_, nextReference_listed second, _, found.2.symm⟩
  | some target =>
    cases second : self.nextReference with
    | none =>
      simp only [first, second, Option.some.injEq, Prod.mk.injEq] at found
      exact .inl ⟨_, nextTarget_listed first, found.2.symm⟩
    | some reference =>
      simp only [first, second] at found
      split at found
      · have step := (Prod.mk.inj (Option.some.inj found)).2
        exact .inl ⟨_, nextTarget_listed first, step.symm⟩
      · have step := (Prod.mk.inj (Option.some.inj found)).2
        exact .inr ⟨_, nextReference_listed second, _, step.symm⟩

theorem nextChange_fewer {time : Int64} {after : RateControl} {splices : List Splice}
    (found : self.nextChange = some (time, after, splices)) :
    after.pendingCount < self.pendingCount := by
  rcases nextChange_cases found with ⟨change, listed, same⟩ | ⟨change, listed, nextChange, same⟩
  · have count := applyTarget_pendingCount listed
    rw [← same] at count
    exact Nat.lt_of_succ_le (Nat.le_of_eq count)
  · have count := applyReference_pendingCount nextChange listed
    rw [← same] at count
    exact Nat.lt_of_succ_le (Nat.le_of_eq count)

def schedule : Schedule RateControl Int64 Splice where
  next := nextChange
  left := pendingCount
  fewer := nextChange_fewer

theorem age_le_iff {first second : Int64} (firstFits : inS64 (now.toInt - first.toInt))
    (secondFits : inS64 (now.toInt - second.toInt)) :
    now - second ≤ now - first ↔ first ≤ second := by
  rw [Int64.le_iff_toInt_le, Int64.le_iff_toInt_le, toInt_sub _ _ firstFits,
    toInt_sub _ _ secondFits]
  omega

theorem applyNext_eq (fits : self.AgesFit now) :
    self.applyNext now = schedule.due now self := by
  obtain ⟨targetFits, referenceFits⟩ := fits
  have next : schedule.next = nextChange := rfl
  rw [applyNext, dueTarget_eq, dueReference_eq, Schedule.due, next, nextChange]
  cases target : self.nextTarget with
  | none =>
    cases reference : self.nextReference with
    | none => rfl
    | some second =>
      simp only [Option.bind_none, Option.bind_some]
      split_ifs <;> rfl
  | some first =>
    cases reference : self.nextReference with
    | none =>
      simp only [Option.bind_none, Option.bind_some]
      split_ifs <;> rfl
    | some second =>
      have ages := fun firstDue secondDue => age_le_iff (targetFits first target firstDue)
        (referenceFits second reference secondDue)
      simp only [Option.bind_some]
      by_cases order : first.2 ≤ second.2
      · -- The target scheduled change is due if any of the two is.
        rw [if_pos order]
        by_cases firstDue : first.2 ≤ now
        · by_cases secondDue : second.2 ≤ now
          · have older := (ages firstDue secondDue).mpr order
            simp only [if_pos firstDue, if_pos secondDue, if_pos older]
          · simp only [if_pos firstDue, if_neg secondDue]
        · have secondLater : ¬ second.2 ≤ now := fun due => firstDue (Int64.le_trans order due)
          simp only [if_neg firstDue, if_neg secondLater]
      · rw [if_neg order]
        by_cases secondDue : second.2 ≤ now
        · by_cases firstDue : first.2 ≤ now
          · have younger := mt (ages firstDue secondDue).mp order
            simp only [if_pos firstDue, if_pos secondDue, if_neg younger]
          · simp only [if_neg firstDue, if_pos secondDue]
        · have before : second.2 ≤ first.2 := Int64.le_of_lt (Int64.not_le.mp order)
          have firstLater : ¬ first.2 ≤ now := fun due => secondDue (Int64.le_trans before due)
          simp only [if_neg firstLater, if_neg secondDue]

end Next

inductive NoAgeOverflow (now : Int64) : RateControl → Prop
  | intro {self : RateControl} (fits : self.AgesFit now)
    (later : ∀ next, self.applyNext now = some next → NoAgeOverflow now next.1) :
    NoAgeOverflow now self

section Loop

variable {self : RateControl} {now earlier : Int64}

theorem NoAgeOverflow.fits (quiet : NoAgeOverflow now self) : self.AgesFit now := by
  cases quiet with
  | intro fits later => exact fits

theorem NoAgeOverflow.next (quiet : NoAgeOverflow now self) {next : RateControl × List Splice}
    (taken : self.applyNext now = some next) : NoAgeOverflow now next.1 := by
  cases quiet with
  | intro fits later => exact later next taken

theorem AgesFit.sooner (order : earlier ≤ now) (fits : self.AgesFit now) :
    self.AgesFit earlier := by
  have ages : ∀ time : Int64, time ≤ earlier → inS64 (now.toInt - time.toInt) →
      inS64 (earlier.toInt - time.toInt) := by
    intro time due inside
    rw [Int64.le_iff_toInt_le] at order due
    unfold inS64 at inside ⊢
    omega
  obtain ⟨target, reference⟩ := fits
  exact ⟨fun next found due => ages _ due (target next found (Int64.le_trans due order)),
    fun next found due => ages _ due (reference next found (Int64.le_trans due order))⟩

theorem applyNext_later (order : earlier ≤ now) (fits : self.AgesFit now)
    {next : RateControl × List Splice} (taken : self.applyNext earlier = some next) :
    self.applyNext now = some next := by
  rw [applyNext_eq (AgesFit.sooner order fits)] at taken
  rw [applyNext_eq fits]
  exact Schedule.due_later order taken

theorem NoAgeOverflow.sooner (order : earlier ≤ now) (quiet : NoAgeOverflow now self) :
    NoAgeOverflow earlier self := by
  induction quiet with
  | intro fits later ih =>
    exact .intro (AgesFit.sooner order fits) fun next taken =>
      ih next (applyNext_later order fits taken)

theorem applyAll_idle (idle : self.applyNext now = none) (turns : Nat) :
    applyAll now turns self = (self, false, []) := by
  cases turns with
  | zero => rfl
  | succ turns => rw [applyAll, idle]

theorem applyAll_eq (turns : Nat) (enough : self.pendingCount ≤ turns)
    (quiet : NoAgeOverflow now self) :
    (applyAll now turns self).1 = (schedule.advance now self).1 := by
  induction quiet generalizing turns with
  | @intro self fits later ih =>
    have due := applyNext_eq fits
    cases taken : self.applyNext now with
    | none =>
      rw [taken] at due
      rw [applyAll_idle taken, Schedule.advance_none due.symm]
    | some next =>
      have fewer := applyNext_pendingCount taken
      rw [taken] at due
      cases turns with
      | zero => omega
      | succ turns =>
        rw [applyAll, taken, Schedule.advance_some due.symm]
        exact ih next taken turns (by omega)

theorem advance_quiet (order : earlier ≤ now) (quiet : NoAgeOverflow now self) :
    NoAgeOverflow now (schedule.advance earlier self).1 := by
  induction quiet with
  | @intro self fits later ih =>
    have due := applyNext_eq (AgesFit.sooner order fits)
    cases taken : self.applyNext earlier with
    | none =>
      rw [taken] at due
      rw [Schedule.advance_none due.symm]
      exact .intro fits later
    | some next =>
      rw [taken] at due
      rw [Schedule.advance_some due.symm]
      exact ih next (applyNext_later order fits taken)

def withGeneration (self : RateControl) (generation : UInt32) : RateControl :=
  { self with generation }

theorem applyTarget_withGeneration (generation : UInt32) (change : LinearTransform) :
    (self.withGeneration generation).applyTarget change =
      ((self.applyTarget change).1.withGeneration generation, (self.applyTarget change).2) := by
  have current : (self.withGeneration generation).currentTransform = self.currentTransform := rfl
  rw [applyTarget, applyTarget, current]
  cases self.currentTransform.doForwardTransform change.aZero with
  | none => rfl
  | some nextChange => rfl

theorem applyNext_withGeneration (generation : UInt32) :
    (self.withGeneration generation).applyNext now =
      (self.applyNext now).map fun next => (next.1.withGeneration generation, next.2) := by
  have target : (self.withGeneration generation).dueTarget now = self.dueTarget now := rfl
  have reference : (self.withGeneration generation).dueReference now = self.dueReference now :=
    rfl
  rw [applyNext, applyNext, target, reference]
  cases self.dueTarget now with
  | none =>
    cases self.dueReference now with
    | none => rfl
    | some second => rfl
  | some first =>
    cases self.dueReference now with
    | none =>
      simp only [applyTarget_withGeneration, Option.map_some]
    | some second =>
      simp only [applyTarget_withGeneration]
      split
      · rfl
      · rfl

theorem applyAll_withGeneration (generation : UInt32) (turns : Nat) :
    applyAll now turns (self.withGeneration generation) =
      ((applyAll now turns self).1.withGeneration generation, (applyAll now turns self).2) := by
  induction turns generalizing self with
  | zero => rfl
  | succ turns ih =>
    rw [applyAll, applyAll, applyNext_withGeneration]
    cases self.applyNext now with
    | none => rfl
    | some next => simp only [Option.map_some, ih]

theorem applyPending_generation (self : RateControl) (now : Int64) :
    ∃ generation, (self.applyPendingChangesLocked now).1 =
      (applyAll now self.pendingCount self).1.withGeneration generation := by
  rw [applyPendingChangesLocked]
  dsimp only
  split
  · exact ⟨_, rfl⟩
  · exact ⟨_, rfl⟩

def SameTimeline (left right : RateControl) : Prop :=
  left.currentTransform = right.currentTransform ∧
    left.referencePendingChanges = right.referencePendingChanges ∧
    left.targetPendingChanges = right.targetPendingChanges

def snapshots (self : RateControl) (times : List Int64) : RateControl :=
  times.foldl (fun control time => (control.snapshotCurrentTransform time).1) self

theorem applyPending_eq (quiet : NoAgeOverflow now self) (generation : UInt32) :
    SameTimeline ((self.withGeneration generation).applyPendingChangesLocked now).1
      (schedule.advance now self).1 := by
  obtain ⟨last, whole⟩ := applyPending_generation (self.withGeneration generation) now
  have count : (self.withGeneration generation).pendingCount = self.pendingCount := rfl
  rw [whole, applyAll_withGeneration, count, applyAll_eq _ (Nat.le_refl _) quiet]
  exact ⟨rfl, rfl, rfl⟩

theorem SameTimeline.trans {left middle right : RateControl} (first : SameTimeline left middle)
    (second : SameTimeline middle right) : SameTimeline left right :=
  ⟨first.1.trans second.1, first.2.1.trans second.2.1, first.2.2.trans second.2.2⟩

theorem SameTimeline.symm {left right : RateControl} (same : SameTimeline left right) :
    SameTimeline right left :=
  ⟨same.1.symm, same.2.1.symm, same.2.2.symm⟩

theorem applyPending_twice (order : earlier ≤ now) (quiet : NoAgeOverflow now self) :
    SameTimeline ((self.applyPendingChangesLocked earlier).1.applyPendingChangesLocked now).1
      (self.applyPendingChangesLocked now).1 := by
  obtain ⟨generation, middle⟩ := applyPending_generation self earlier
  have once := applyPending_eq quiet self.generation
  have twice := applyPending_eq (advance_quiet order quiet) generation
  rw [Schedule.advance_advance order] at once
  rw [middle, applyAll_eq _ (Nat.le_refl _) (quiet.sooner order)]
  exact twice.trans once.symm

theorem NoAgeOverflow.withGeneration (generation : UInt32) (quiet : NoAgeOverflow now self) :
    NoAgeOverflow now (self.withGeneration generation) := by
  induction quiet with
  | intro fits later ih =>
    refine .intro fits fun next taken => ?_
    rw [applyNext_withGeneration] at taken
    obtain ⟨before, found, rfl⟩ := Option.map_eq_some_iff.mp taken
    exact ih before found

theorem snapshot_after_snapshots (times : List Int64) (order : ∀ time ∈ times, time ≤ now)
    (quiet : NoAgeOverflow now self) :
    SameTimeline ((self.snapshots times).snapshotCurrentTransform now).1
      (self.snapshotCurrentTransform now).1 := by
  induction times generalizing self with
  | nil => exact ⟨rfl, rfl, rfl⟩
  | cons time rest ih =>
    have first := order time List.mem_cons_self
    have still : NoAgeOverflow now (self.applyPendingChangesLocked time).1 := by
      obtain ⟨generation, middle⟩ := applyPending_generation self time
      rw [middle, applyAll_eq _ (Nat.le_refl _) (quiet.sooner first)]
      exact (advance_quiet first quiet).withGeneration generation
    have later := ih (fun other member => order other (List.mem_cons_of_mem _ member)) still
    exact later.trans (applyPending_twice first quiet)

theorem applyAll_more (turns more : Nat) (enough : self.pendingCount ≤ turns) :
    applyAll now (turns + more) self = applyAll now turns self := by
  induction turns generalizing self with
  | zero =>
    cases taken : self.applyNext now with
    | none => rw [applyAll_idle taken, applyAll_idle taken]
    | some next =>
      have fewer := applyNext_pendingCount taken
      omega
  | succ turns ih =>
    rw [Nat.add_right_comm, applyAll, applyAll]
    cases taken : self.applyNext now with
    | none => rfl
    | some next =>
      have fewer := applyNext_pendingCount taken
      simp only [ih (by omega : next.1.pendingCount ≤ turns)]

end Loop

theorem snapshots_confluent :
    (∀ (self : RateControl) (earlier now : Int64), earlier ≤ now → NoAgeOverflow now self →
      SameTimeline
        ((self.applyPendingChangesLocked earlier).1.applyPendingChangesLocked now).1
        (self.applyPendingChangesLocked now).1) ∧
    ∀ (self : RateControl) (now : Int64) (turns : Nat), self.pendingCount ≤ turns →
      (applyAll now turns self).1.applyNext now = none ∧
        applyAll now turns self = applyAll now self.pendingCount self := by
  refine ⟨fun self earlier now order quiet => applyPending_twice order quiet, ?_⟩
  intro self now turns enough
  obtain ⟨more, rfl⟩ := Nat.exists_eq_add_of_le enough
  exact ⟨applyAll_done now _ enough, applyAll_more _ more (Nat.le_refl _)⟩

-- Playing at the normal rate, then at twice the rate from 100 on, and paused at the media
-- time 150. The change to twice the rate makes the pause come sooner.
def doubledThenPaused : RateControl :=
  { currentTransform := { scale := { numerator := 1, denominator := 1 } }
    referencePendingChanges :=
      [{ scale := { numerator := 0, denominator := 1 }, bZero := 150 }]
    targetPendingChanges := [{ scale := { numerator := 2, denominator := 1 }, aZero := 100 }] }

theorem snapshots_confluent_doubled :
    SameTimeline ((doubledThenPaused.applyPendingChangesLocked 110).1.applyPendingChangesLocked
      200).1 (doubledThenPaused.applyPendingChangesLocked 200).1 := by
  refine snapshots_confluent.1 doubledThenPaused 110 200 (by decide) ?_
  refine .intro (by decide) fun doubled first => ?_
  obtain rfl : _ = doubled := Option.some.inj first
  refine .intro (by decide) fun paused second => ?_
  obtain rfl : _ = paused := Option.some.inj second
  exact .intro (by decide) fun none third => by cases third

end RateControl

end MojoMedia
