import MojoMedia.Audio.ProcessMix
import MojoMedia.Shared.Runs

set_option autoImplicit false

-- What ALSA and the clock answer are inputs of a call. Every call site of them is reached at most
-- once in one call of `StartMixJob` or `FinishMixJob`, so there is one answer for each.
namespace MojoMedia.Audio.Alsa

def EINTR : Int32 := 4

def EAGAIN : Int32 := 11

def EPIPE : Int32 := 32

def ESTRPIPE : Int32 := 86

def kChunkDuration : Int64 := 5000000

def kLowBufThresh : Int64 := kChunkDuration * 6

def kTargetLatency : Int64 := kChunkDuration * 7

def kErrorRecoveryTime : Int64 := 300000000

def kWaitForAlsaDelay : Int64 := 500000

def oneMsec : Int64 := 1000000

def isRecoverableAlsaError (errorCode : Int32) : Bool :=
  errorCode = -EINTR ∨ errorCode = -EPIPE ∨ errorCode = -ESTRPIPE

-- `recoverUnderflow` and `writeSilence` are the calls of `HandleAsUnderflow`, `recover` is the
-- one of `HandleAsError`. The last three are readings of the clock, and `unset` is what the
-- playout time holds where the transform fails.
structure Answers where
  getAvailDelay : Int32 := 0
  avail : UInt32 := 0
  delay : UInt32 := 0
  write : Int32 := 0
  recoverUnderflow : Int32 := 0
  writeSilence : Int32 := 0
  recover : Int32 := 0
  now : Int64 := 0
  targetNow : Int64 := 0
  schedNow : Int64 := 0
  unset : Int64 := 0
  deriving Repr, DecidableEq

structure Output extends AlsaOutput where
  framesPerTick : Ratio
  mixBufFrames : UInt32
  primed : Bool := false
  localToOutputKnown : Bool := false
  framesSent : Int64 := 0
  nextSchedTime : Int64 := 0
  nextSchedTimeKnown : Bool := true
  shuttingDown : Bool := false
  deriving Repr, DecidableEq

namespace Output

def shutdownSelf (self : Output) : Output := { self with shuttingDown := true }

def setNextSchedTime (self : Output) (nextSchedTime : Int64) : Output :=
  { self with nextSchedTime, nextSchedTimeKnown := true }

def setNextSchedDelay (self : Output) (answers : Answers) (nextSchedDelay : Int64) : Output :=
  self.setNextSchedTime (answers.schedNow + nextSchedDelay)

section Scheduling

variable (self : Output) (answers : Answers) (delay : Int64)

@[simp] theorem setNextSchedDelay_known :
    (self.setNextSchedDelay answers delay).nextSchedTimeKnown = true := rfl

@[simp] theorem setNextSchedDelay_shuttingDown :
    (self.setNextSchedDelay answers delay).shuttingDown = self.shuttingDown := rfl

@[simp] theorem setNextSchedDelay_primed :
    (self.setNextSchedDelay answers delay).primed = self.primed := rfl

@[simp] theorem setNextSchedDelay_localToOutputKnown :
    (self.setNextSchedDelay answers delay).localToOutputKnown = self.localToOutputKnown := rfl

end Scheduling

def handleAsError (self : Output) (answers : Answers) (code : Int32) : Output :=
  let handled :=
    if isRecoverableAlsaError code ∧ (answers.recover = 0 ∨ answers.recover = -EINTR) then
      let unprimed := { self with primed := false, localToOutputKnown := false }
      unprimed.setNextSchedDelay answers kErrorRecoveryTime
    else self
  -- Reached after a recovery, too.
  handled.shutdownSelf

def handleAsUnderflow (self : Output) (answers : Answers) : Output :=
  if self.primed ∧ answers.recoverUnderflow < 0 then
    self.handleAsError answers answers.recoverUnderflow
  else if answers.writeSilence < 0 then self.handleAsError answers answers.writeSilence
  else
    let primed := { self with primed := true, localToOutputKnown := false }
    primed.setNextSchedDelay answers oneMsec

def handleAlsaError (self : Output) (answers : Answers) (code : Int32) : Output :=
  if code = -EPIPE then self.handleAsUnderflow answers else self.handleAsError answers code

def fillFrames (self : Output) (answers : Answers) (playoutTime : Int64) : UInt32 :=
  let playoutTarget := answers.targetNow + kTargetLatency
  let fillAmt := if playoutTime < playoutTarget then playoutTarget - playoutTime else kTargetLatency
  let fillAmt := fillAmt * self.framesPerTick.numerator.toNat.toInt64
  let fillAmt := fillAmt + (self.framesPerTick.denominator - 1).toNat.toInt64
  let fillAmt := fillAmt / self.framesPerTick.denominator.toNat.toInt64
  let bufFrames :=
    if answers.avail.toNat.toInt64 < fillAmt then answers.avail else fillAmt.toUInt64.toUInt32
  if self.mixBufFrames < bufFrames then self.mixBufFrames else bufFrames

def mixOrWait (self : Output) (answers : Answers) (processStart : Int64) :
    Option CurMixJob × Output :=
  let playoutTime := (self.localToOutput.doReverseTransform self.framesSent).getD answers.unset
  let lowBufTime := playoutTime - kLowBufThresh
  if lowBufTime ≤ processStart then
    if answers.avail = 0 then (none, self.setNextSchedDelay answers kWaitForAlsaDelay)
    else
      let job :=
        { toMixJob := self.toAlsaOutput.startMixJob
          bufFrames := self.fillFrames answers playoutTime
          startPtsOf := self.framesSent }
      (some job, self)
  else (none, self.setNextSchedTime lowBufTime)

def learnLocalToOutput (self : Output) (answers : Answers) : Output :=
  let transform : LinearTransform :=
    { scale := self.framesPerTick, aZero := answers.now, bZero := -answers.delay.toNat.toInt64 }
  { self with
    toAlsaOutput := self.toAlsaOutput.setLocalToOutput transform
    localToOutputKnown := true
    framesSent := 0 }

def startMixJob (self : Output) (answers : Answers) (processStart : Int64) :
    Option CurMixJob × Output :=
  if ¬ self.primed then (none, self.handleAsUnderflow answers)
  else if ¬ self.localToOutputKnown ∧ answers.getAvailDelay = -EAGAIN then
    (none, self.setNextSchedDelay answers oneMsec)
  else if answers.getAvailDelay < 0 then
    (none, self.handleAlsaError answers answers.getAvailDelay)
  else
    let known := if self.localToOutputKnown then self else self.learnLocalToOutput answers
    known.mixOrWait answers processStart

def finishMixJob (self : Output) (answers : Answers) (job : CurMixJob) : Bool × Output :=
  if answers.write.toUInt32 ≠ job.bufFrames then
    (false, self.handleAlsaError answers answers.write)
  else (true, { self with framesSent := self.framesSent + answers.write.toInt64 })

def endProcess (self : Output) : Output :=
  if self.nextSchedTimeKnown then self else self.shutdownSelf

end Output

-- Where `Process` is: it is not running, or about to start a job, or about to finish one.
inductive Phase where
  | waiting
  | starting (processStart : Int64)
  | finishing (processStart : Int64) (job : CurMixJob)
  deriving Repr, DecidableEq

structure Session where
  output : Output
  phase : Phase := .waiting
  deriving Repr, DecidableEq

inductive Event where
  | process (now : Int64)
  | startMixJob (answers : Answers)
  | finishMixJob (answers : Answers)
  deriving Repr, DecidableEq

namespace Session

def process (session : Session) (now : Int64) : Option Session :=
  if session.output.shuttingDown then none
  else if session.output.nextSchedTime ≤ now then
    some { output := { session.output with nextSchedTimeKnown := false }, phase := .starting now }
  else some { session with output := session.output.endProcess }

def step (session : Session) (event : Event) : Option Session :=
  match event, session.phase with
  | .process now, .waiting => session.process now
  | .startMixJob answers, .starting processStart =>
    match session.output.startMixJob answers processStart with
    | (some job, output) => some { output, phase := .finishing processStart job }
    | (none, output) => some { output := output.endProcess }
  | .finishMixJob answers, .finishing processStart job =>
    match session.output.finishMixJob answers job with
    | (true, output) => some { output, phase := .starting processStart }
    | (false, output) => some { output := output.endProcess }
  | _, _ => none

end Session

end MojoMedia.Audio.Alsa
