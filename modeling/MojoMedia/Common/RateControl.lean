import MojoMedia.Common.LinearTransform

set_option autoImplicit false

-- Space A is the target timeline, space B the reference timeline. The binding to the client is
-- left out: any operation may be called at any time.
namespace MojoMedia

structure RateControl where
  currentTransform : LinearTransform := { scale := .reduced 0 1 }
  referencePendingChanges : List LinearTransform := []
  targetPendingChanges : List LinearTransform := []
  generation : UInt32 := 1
  deriving Repr, DecidableEq

structure TimelineQuad where
  referenceOffset : Int64
  targetOffset : Int64
  referenceDelta : UInt32
  targetDelta : UInt32
  deriving Repr, DecidableEq

inductive Change where
  | setRate (targetNow : Int64)
  | atTarget (targetTime : Int64)
  | atReference (referenceTime : Int64)
  deriving Repr, DecidableEq

structure Splice where
  change : Change
  before : LinearTransform
  after : LinearTransform
  deriving Repr, DecidableEq

namespace RateControl

def advanceGenerationLocked (self : RateControl) : RateControl :=
  let generation := self.generation + 1
  { self with generation := if generation = 0 then generation + 1 else generation }

def cancelPendingChanges (self : RateControl) : RateControl :=
  { self with referencePendingChanges := [], targetPendingChanges := [] }

def dueTarget (self : RateControl) (targetNow : Int64) : Option (LinearTransform × Int64) :=
  match self.targetPendingChanges with
  | [] => none
  | front :: _ => if front.aZero ≤ targetNow then some (front, targetNow - front.aZero) else none

def dueReference (self : RateControl) (targetNow : Int64) :
    Option (LinearTransform × Int64 × Int64) :=
  match self.referencePendingChanges with
  | [] => none
  | front :: _ =>
    match self.currentTransform.doReverseTransform front.bZero with
    | none => none
    | some nextChange =>
      if nextChange ≤ targetNow then some (front, nextChange, targetNow - nextChange) else none

def applyTarget (self : RateControl) (change : LinearTransform) : RateControl × List Splice :=
  let purged := { self with targetPendingChanges := self.targetPendingChanges.tail }
  match self.currentTransform.doForwardTransform change.aZero with
  | none => (purged, [])
  | some nextChange =>
    let after := { scale := change.scale, aZero := change.aZero, bZero := nextChange }
    ({ purged with currentTransform := after },
      [⟨.atTarget change.aZero, self.currentTransform, after⟩])

def applyReference (self : RateControl) (change : LinearTransform) (nextChange : Int64) :
    RateControl × List Splice :=
  let after := { scale := change.scale, aZero := nextChange, bZero := change.aZero }
  ({ self with
      currentTransform := after
      referencePendingChanges := self.referencePendingChanges.tail },
    [⟨.atReference change.bZero, self.currentTransform, after⟩])

-- One turn of the loop of `ApplyPendingChangesLocked`. The loop ends with `none`.
def applyNext (self : RateControl) (targetNow : Int64) : Option (RateControl × List Splice) :=
  match self.dueTarget targetNow, self.dueReference targetNow with
  | some (target, targetAge), some (reference, nextChange, referenceAge) =>
    if referenceAge ≤ targetAge then some (self.applyTarget target)
    else some (self.applyReference reference nextChange)
  | some (target, _), none => some (self.applyTarget target)
  | none, some (reference, nextChange, _) => some (self.applyReference reference nextChange)
  | none, none => none

def applyAll (targetNow : Int64) : Nat → RateControl → RateControl × Bool × List Splice
  | 0, self => (self, false, [])
  | turns + 1, self =>
    match self.applyNext targetNow with
    | none => (self, false, [])
    | some (next, splices) =>
      let (final, _, later) := applyAll targetNow turns next
      (final, true, splices ++ later)

def pendingCount (self : RateControl) : Nat :=
  self.referencePendingChanges.length + self.targetPendingChanges.length

def applyPendingChangesLocked (self : RateControl) (targetNow : Int64) :
    RateControl × List Splice :=
  let (next, advance, splices) := applyAll targetNow self.pendingCount self
  (if advance then next.advanceGenerationLocked else next, splices)

def snapshotCurrentTransform (self : RateControl) (targetNow : Int64) :
    RateControl × List Splice :=
  self.applyPendingChangesLocked targetNow

def changeRate (self : RateControl) (referenceDelta targetDelta : UInt32) (targetNow : Int64) :
    RateControl × List Splice :=
  let (self, splices) := self.applyPendingChangesLocked targetNow
  match self.currentTransform.doForwardTransform targetNow with
  | none => (self, splices)
  | some referenceNow =>
    let after :=
      { scale := { numerator := referenceDelta, denominator := targetDelta }
        aZero := targetNow
        bZero := referenceNow }
    (({ self with currentTransform := after }).advanceGenerationLocked,
      splices ++ [⟨.setRate targetNow, self.currentTransform, after⟩])

def reset (self : RateControl) (targetNow : Int64) : RateControl × List Splice :=
  self.cancelPendingChanges.changeRate 0 1 targetNow

def onIllegalRateChange (self : RateControl) (targetNow : Int64) : RateControl × List Splice :=
  self.reset targetNow

def setRate (self : RateControl) (referenceDelta targetDelta : UInt32) (targetNow : Int64) :
    RateControl × List Splice :=
  if targetDelta = 0 then self.onIllegalRateChange targetNow
  else self.changeRate referenceDelta targetDelta targetNow

def setCurrentQuad (self : RateControl) (quad : TimelineQuad) (targetNow : Int64) :
    RateControl × List Splice :=
  if quad.targetDelta = 0 then self.onIllegalRateChange targetNow
  else
    let scale :=
      if quad.referenceDelta ≠ 0 then Ratio.reduced quad.referenceDelta quad.targetDelta
      else { numerator := 0, denominator := 1 }
    (({ self.cancelPendingChanges with
        currentTransform := { scale, aZero := quad.targetOffset, bZero := quad.referenceOffset }
        }).advanceGenerationLocked, [])

def setRateAtReferenceTime (self : RateControl) (referenceDelta targetDelta : UInt32)
    (referenceTime targetNow : Int64) : RateControl × List Splice :=
  if targetDelta = 0 then self.onIllegalRateChange targetNow
  else if self.referencePendingChanges.getLast?.any (fun last => referenceTime ≤ last.bZero) then
    (self, [])
  else
    let change :=
      { scale := .reduced referenceDelta targetDelta, aZero := 0, bZero := referenceTime }
    ({ self with referencePendingChanges := self.referencePendingChanges ++ [change] }, [])

def setRateAtTargetTime (self : RateControl) (referenceDelta targetDelta : UInt32)
    (targetTime targetNow : Int64) : RateControl × List Splice :=
  if targetDelta = 0 then self.onIllegalRateChange targetNow
  else if self.targetPendingChanges.getLast?.any (fun last => targetTime ≤ last.aZero) then
    (self, [])
  else
    let change :=
      { scale := .reduced referenceDelta targetDelta, aZero := targetTime, bZero := 0 }
    ({ self with targetPendingChanges := self.targetPendingChanges ++ [change] }, [])

def kLocalTimeID : UInt32 := 0xFFFFFFFF

def setTargetTimelineID (self : RateControl) (id : UInt32) (targetNow : Int64) :
    RateControl × List Splice :=
  if id ≠ kLocalTimeID then self.reset targetNow else (self, [])

end RateControl

inductive RateEvent where
  | snapshot (now : Int64)
  | setRate (referenceDelta targetDelta : UInt32) (now : Int64)
  | setCurrentQuad (quad : TimelineQuad) (now : Int64)
  | setRateAtReferenceTime (referenceDelta targetDelta : UInt32) (referenceTime now : Int64)
  | setRateAtTargetTime (referenceDelta targetDelta : UInt32) (targetTime now : Int64)
  | cancelPendingChanges
  | setTargetTimelineID (id : UInt32) (now : Int64)
  | reset (now : Int64)
  deriving Repr, DecidableEq

def RateControl.handle (self : RateControl) : RateEvent → RateControl × List Splice
  | .snapshot now => self.snapshotCurrentTransform now
  | .setRate referenceDelta targetDelta now => self.setRate referenceDelta targetDelta now
  | .setCurrentQuad quad now => self.setCurrentQuad quad now
  | .setRateAtReferenceTime referenceDelta targetDelta referenceTime now =>
    self.setRateAtReferenceTime referenceDelta targetDelta referenceTime now
  | .setRateAtTargetTime referenceDelta targetDelta targetTime now =>
    self.setRateAtTargetTime referenceDelta targetDelta targetTime now
  | .cancelPendingChanges => (self.cancelPendingChanges, [])
  | .setTargetTimelineID id now => self.setTargetTimelineID id now
  | .reset now => self.reset now

structure RateRun where
  control : RateControl := {}
  splices : List Splice := []
  deriving Repr, DecidableEq

def RateRun.step (state : RateRun) (event : RateEvent) : RateRun :=
  let (control, splices) := state.control.handle event
  { control, splices := state.splices ++ splices }

end MojoMedia
