import MojoMedia.Audio.AlsaOutput

set_option autoImplicit false

namespace MojoMedia.Audio.Alsa

open Runs

-- A recovery that succeeds, or that is to be tried again after a signal.
def Answers.Recovers (answers : Answers) (code : Int32) : Prop :=
  isRecoverableAlsaError code ∧ (answers.recover = 0 ∨ answers.recover = -EINTR)

namespace Output

-- The code that `HandleAsError` is called with, from an underflow and from a call of ALSA.
def underflowError (self : Output) (answers : Answers) : Option Int32 :=
  if self.primed ∧ answers.recoverUnderflow < 0 then some answers.recoverUnderflow
  else if answers.writeSilence < 0 then some answers.writeSilence
  else none

def alsaError (self : Output) (answers : Answers) (code : Int32) : Option Int32 :=
  if code = -EPIPE then self.underflowError answers else some code

def startError (self : Output) (answers : Answers) : Option Int32 :=
  if ¬ self.primed then self.underflowError answers
  else if ¬ self.localToOutputKnown ∧ answers.getAvailDelay = -EAGAIN then none
  else if answers.getAvailDelay < 0 then self.alsaError answers answers.getAvailDelay
  else none

def finishError (self : Output) (answers : Answers) (job : CurMixJob) : Option Int32 :=
  if answers.write.toUInt32 ≠ job.bufFrames then self.alsaError answers answers.write else none

-- Silence has been written, and the output is asked to go on soon.
structure Reprimed (before next : Output) : Prop where
  primed : next.primed = true
  unknown : next.localToOutputKnown = false
  scheduled : next.nextSchedTimeKnown = true
  running : next.shuttingDown = before.shuttingDown

variable {self : Output} {answers : Answers}

-- All that a recovery is meant to leave is there, and the output shuts down.
structure LeftUnprimed (next : Output) : Prop where
  unprimed : next.primed = false
  unknown : next.localToOutputKnown = false
  scheduled : next.nextSchedTimeKnown = true
  shuttingDown : next.shuttingDown = true

theorem handleAsError_recovered {code : Int32} (recovers : answers.Recovers code) :
    (self.handleAsError answers code).LeftUnprimed := by
  have again : isRecoverableAlsaError code ∧ (answers.recover = 0 ∨ answers.recover = -EINTR) :=
    recovers
  simp only [handleAsError, if_pos again]
  constructor <;> simp [shutdownSelf]

theorem handleAsUnderflow_error {code : Int32} (failed : self.underflowError answers = some code) :
    self.handleAsUnderflow answers = self.handleAsError answers code := by
  unfold underflowError at failed
  unfold handleAsUnderflow
  split at failed
  next first =>
    obtain rfl := Option.some.inj failed
    rw [if_pos first]
  next first =>
    rw [if_neg first]
    split at failed
    next second =>
      obtain rfl := Option.some.inj failed
      rw [if_pos second]
    next => cases failed

theorem handleAsUnderflow_reprimed (fine : self.underflowError answers = none) :
    self.Reprimed (self.handleAsUnderflow answers) := by
  unfold underflowError at fine
  unfold handleAsUnderflow
  split at fine
  next => cases fine
  next first =>
    split at fine
    next => cases fine
    next second =>
      rw [if_neg first, if_neg second]
      constructor <;> simp

theorem handleAlsaError_error {failure code : Int32}
    (failed : self.alsaError answers failure = some code) :
    self.handleAlsaError answers failure = self.handleAsError answers code := by
  unfold alsaError at failed
  unfold handleAlsaError
  split at failed
  next underflow => rw [if_pos underflow, handleAsUnderflow_error failed]
  next other =>
    obtain rfl := Option.some.inj failed
    rw [if_neg other]

theorem handleAlsaError_reprimed {failure : Int32}
    (fine : self.alsaError answers failure = none) :
    self.Reprimed (self.handleAlsaError answers failure) := by
  unfold alsaError at fine
  unfold handleAlsaError
  split at fine
  next underflow =>
    rw [if_pos underflow]
    exact handleAsUnderflow_reprimed fine
  next => cases fine

theorem startMixJob_error {processStart : Int64} {code : Int32}
    (failed : self.startError answers = some code) :
    self.startMixJob answers processStart = (none, self.handleAsError answers code) := by
  unfold startError at failed
  unfold startMixJob
  split at failed
  next unprimed => rw [if_pos unprimed, handleAsUnderflow_error failed]
  next primed =>
    rw [if_neg primed]
    split at failed
    next => cases failed
    next ready =>
      rw [if_neg ready]
      split at failed
      next bad => rw [if_pos bad, handleAlsaError_error failed]
      next => cases failed

-- Without an error the output goes on, and knows when.
structure GoesOn (before : Output) (outcome : Option CurMixJob × Output) : Prop where
  running : outcome.2.shuttingDown = before.shuttingDown
  scheduled : outcome.1 = none → outcome.2.nextSchedTimeKnown = true

theorem GoesOn.wait {next : Output} (running : next.shuttingDown = self.shuttingDown)
    (scheduled : next.nextSchedTimeKnown = true) : self.GoesOn (none, next) :=
  ⟨running, fun _ => scheduled⟩

theorem GoesOn.job (job : CurMixJob) : self.GoesOn (some job, self) :=
  ⟨rfl, fun none => nomatch none⟩

theorem mixOrWait_goesOn (processStart : Int64) :
    self.GoesOn (self.mixOrWait answers processStart) := by
  unfold mixOrWait
  extract_lets playoutTime lowBufTime
  by_cases low : lowBufTime ≤ processStart
  · rw [if_pos low]
    by_cases full : answers.avail = 0
    · rw [if_pos full]
      exact .wait (setNextSchedDelay_shuttingDown ..) (setNextSchedDelay_known ..)
    · rw [if_neg full]
      exact .job _
  · rw [if_neg low]
    exact .wait rfl rfl

theorem known_goesOn (processStart : Int64) :
    self.GoesOn ((if self.localToOutputKnown then self
      else self.learnLocalToOutput answers).mixOrWait answers processStart) := by
  by_cases known : self.localToOutputKnown
  · rw [if_pos known]
    exact mixOrWait_goesOn processStart
  · have goesOn : (self.learnLocalToOutput answers).GoesOn
        ((self.learnLocalToOutput answers).mixOrWait answers processStart) :=
      mixOrWait_goesOn processStart
    rw [if_neg known]
    exact ⟨goesOn.running, goesOn.scheduled⟩

theorem startMixJob_goesOn (processStart : Int64) (fine : self.startError answers = none) :
    self.GoesOn (self.startMixJob answers processStart) := by
  unfold startError at fine
  unfold startMixJob
  split at fine
  next unprimed =>
    have reprimed := handleAsUnderflow_reprimed fine
    rw [if_pos unprimed]
    exact .wait reprimed.running reprimed.scheduled
  next primed =>
    rw [if_neg primed]
    split at fine
    next soon =>
      rw [if_pos soon]
      exact .wait (setNextSchedDelay_shuttingDown ..) (setNextSchedDelay_known ..)
    next ready =>
      rw [if_neg ready]
      split at fine
      next bad =>
        have reprimed := handleAlsaError_reprimed fine
        rw [if_pos bad]
        exact .wait reprimed.running reprimed.scheduled
      next good =>
        rw [if_neg good]
        exact known_goesOn processStart

theorem finishMixJob_error {job : CurMixJob} {code : Int32}
    (failed : self.finishError answers job = some code) :
    self.finishMixJob answers job = (false, self.handleAsError answers code) := by
  unfold finishError at failed
  unfold finishMixJob
  split at failed
  next short => rw [if_pos short, handleAlsaError_error failed]
  next => cases failed

theorem finishMixJob_goesOn {job : CurMixJob} (fine : self.finishError answers job = none) :
    (self.finishMixJob answers job).2.shuttingDown = self.shuttingDown ∧
      ((self.finishMixJob answers job).1 = false →
        (self.finishMixJob answers job).2.nextSchedTimeKnown = true) := by
  unfold finishError at fine
  unfold finishMixJob
  split at fine
  next short =>
    have reprimed := handleAlsaError_reprimed fine
    rw [if_pos short]
    exact ⟨reprimed.running, fun _ => reprimed.scheduled⟩
  next whole =>
    rw [if_neg whole]
    exact ⟨rfl, nofun⟩

-- The output can go on: the next job that gets its silence written primes it.
structure Unprimed (output : Output) : Prop where
  running : output.shuttingDown = false
  unprimed : output.primed = false
  unknown : output.localToOutputKnown = false
  scheduled : output.nextSchedTimeKnown = true
  reprimes : ∀ answers processStart, 0 ≤ answers.writeSilence →
    output.Reprimed (output.startMixJob answers processStart).2

end Output

namespace Session

-- What `HandleAsError` is called with in this step.
def error (session : Session) (event : Event) : Option (Answers × Int32) :=
  match event, session.phase with
  | .startMixJob answers, .starting _ =>
    (session.output.startError answers).map fun code => (answers, code)
  | .finishMixJob answers, .finishing _ job =>
    (session.output.finishError answers job).map fun code => (answers, code)
  | _, _ => none

-- ALSA reports an underflow of a primed output in this step.
def underflow (session : Session) (event : Event) : Option Answers :=
  match event, session.phase with
  | .startMixJob answers, .starting _ =>
    if session.output.primed ∧ answers.getAvailDelay = -EPIPE then some answers else none
  | .finishMixJob answers, .finishing _ job =>
    if session.output.primed ∧ answers.write.toUInt32 ≠ job.bufFrames ∧ answers.write = -EPIPE
      then some answers else none
  | _, _ => none

-- Only a negative answer of ALSA is an error code. A write that comes out short returns how many
-- frames it took.
structure HandlesErrors (session : Session) (event : Event) (next : Session) : Prop where
  shutdown : next.output.shuttingDown = true → session.output.shuttingDown = true ∨
    ∃ answers code, session.error event = some (answers, code) ∧ code < 0 ∧
      ¬ answers.Recovers code
  recovered : ∀ answers code, session.error event = some (answers, code) →
    answers.Recovers code → next.output.Unprimed
  reprimed : ∀ answers, session.underflow event = some answers → 0 ≤ answers.recoverUnderflow →
    0 ≤ answers.writeSilence → session.output.Reprimed next.output

def Handled (session : Session) (event : Event) : Prop :=
  ∀ next, session.step event = some next → session.HandlesErrors event next

-- `HandleAsError` is called with error codes only, none of which it recovers from.
def Unrecovered (session : Session) (event : Event) : Prop :=
  ∀ answers code, session.error event = some (answers, code) →
    code < 0 ∧ ¬ answers.Recovers code

-- Between two calls of `Process` there is a time for the next one, and an output that is
-- shutting down does not mix.
structure Settled (session : Session) : Prop where
  scheduled : session.phase = .waiting →
    session.output.nextSchedTimeKnown = true ∨ session.output.shuttingDown = true
  mixing : session.phase ≠ .waiting → session.output.shuttingDown = false

theorem endProcess_settled (output : Output) : Settled { output := output.endProcess } := by
  refine ⟨fun _ => ?_, fun mixing => absurd rfl mixing⟩
  unfold Output.endProcess
  split
  next known => exact .inl known
  next => exact .inr rfl

theorem mixing_settled {session : Session} (mixing : session.phase ≠ .waiting)
    (running : session.output.shuttingDown = false) : session.Settled :=
  ⟨fun waiting => absurd waiting mixing, fun _ => running⟩

theorem endProcess_known {output : Output} (known : output.nextSchedTimeKnown = true) :
    output.endProcess = output := if_pos known

variable {session next : Session} {event : Event}

theorem step_error {answers : Answers} {code : Int32}
    (failed : session.error event = some (answers, code)) :
    session.step event =
      some { output := (session.output.handleAsError answers code).endProcess } := by
  unfold error at failed
  split at failed
  next given processStart starting =>
    obtain ⟨found, isFound, same⟩ := Option.map_eq_some_iff.mp failed
    obtain ⟨rfl, rfl⟩ := Prod.mk.inj same
    simp only [step, starting, Output.startMixJob_error isFound]
  next given processStart job finishing =>
    obtain ⟨found, isFound, same⟩ := Option.map_eq_some_iff.mp failed
    obtain ⟨rfl, rfl⟩ := Prod.mk.inj same
    simp only [step, finishing, Output.finishMixJob_error isFound]
  next => cases failed

theorem step_recovered {answers : Answers} {code : Int32}
    (failed : session.error event = some (answers, code)) (recovers : answers.Recovers code) :
    ∃ next, session.step event = some next ∧ next.output.LeftUnprimed := by
  have left : (session.output.handleAsError answers code).LeftUnprimed :=
    Output.handleAsError_recovered recovers
  refine ⟨_, step_error failed, ?_⟩
  rwa [endProcess_known left.scheduled]

theorem step_goesOn (settled : session.Settled) (fine : session.error event = none)
    (taken : session.step event = some next) :
    next.output.shuttingDown = session.output.shuttingDown := by
  unfold step at taken
  split at taken
  next now waiting =>
    unfold process at taken
    split at taken
    next => cases taken
    next running =>
      split at taken
      next =>
        obtain rfl := Option.some.inj taken
        rfl
      next =>
        obtain rfl := Option.some.inj taken
        rw [endProcess_known ((settled.scheduled waiting).resolve_right running)]
  next answers processStart starting =>
    simp only [error, starting, Option.map_eq_none_iff] at fine
    have goesOn := Output.startMixJob_goesOn processStart fine
    split at taken
    next job output started =>
      obtain rfl := Option.some.inj taken
      rw [started] at goesOn
      exact goesOn.running
    next output started =>
      obtain rfl := Option.some.inj taken
      rw [started] at goesOn
      rw [endProcess_known (goesOn.scheduled rfl)]
      exact goesOn.running
  next answers processStart job finishing =>
    simp only [error, finishing, Option.map_eq_none_iff] at fine
    have goesOn := Output.finishMixJob_goesOn fine
    split at taken
    next output finished =>
      obtain rfl := Option.some.inj taken
      rw [finished] at goesOn
      exact goesOn.1
    next output finished =>
      obtain rfl := Option.some.inj taken
      rw [finished] at goesOn
      rw [endProcess_known (goesOn.2 rfl)]
      exact goesOn.1
  next => cases taken

theorem error_mixing {failure : Answers × Int32} (failed : session.error event = some failure) :
    session.phase ≠ .waiting := by
  intro waiting
  cases event <;> simp [error, waiting] at failed

theorem step_settled (settled : session.Settled) (taken : session.step event = some next) :
    next.Settled := by
  cases failed : session.error event with
  | some failure =>
    obtain ⟨answers, code⟩ := failure
    rw [step_error failed] at taken
    obtain rfl := Option.some.inj taken
    exact endProcess_settled _
  | none =>
    have goesOn := step_goesOn settled failed taken
    unfold step at taken
    split at taken
    next now waiting =>
      unfold process at taken
      split at taken
      next => cases taken
      next running =>
        split at taken
        next =>
          obtain rfl := Option.some.inj taken
          exact mixing_settled nofun (Bool.eq_false_iff.mpr running)
        next =>
          obtain rfl := Option.some.inj taken
          rw [waiting]
          exact endProcess_settled session.output
    next answers processStart starting =>
      have running := settled.mixing (by rw [starting]; nofun)
      split at taken
      next =>
        obtain rfl := Option.some.inj taken
        exact mixing_settled nofun (goesOn.trans running)
      next output _ =>
        obtain rfl := Option.some.inj taken
        exact endProcess_settled output
    next answers processStart job finishing =>
      have running := settled.mixing (by rw [finishing]; nofun)
      split at taken
      next =>
        obtain rfl := Option.some.inj taken
        exact mixing_settled nofun (goesOn.trans running)
      next output _ =>
        obtain rfl := Option.some.inj taken
        exact endProcess_settled output
    next => cases taken

theorem underflowError_none {output : Output} {answers : Answers}
    (recovered : 0 ≤ answers.recoverUnderflow) (written : 0 ≤ answers.writeSilence) :
    output.underflowError answers = none := by
  rw [Output.underflowError, if_neg (fun bad => Int32.not_lt.mpr recovered bad.2),
    if_neg (Int32.not_lt.mpr written)]

theorem alsaError_epipe (output : Output) (answers : Answers) :
    output.alsaError answers (-EPIPE) = output.underflowError answers := if_pos rfl

theorem startMixJob_underflow {output : Output} {answers : Answers} (processStart : Int64)
    (primed : output.primed = true) (underflow : answers.getAvailDelay = -EPIPE) :
    output.startMixJob answers processStart =
      (none, output.handleAlsaError answers (-EPIPE)) := by
  have other : ¬ (-EPIPE = -EAGAIN) := by decide
  have negative : -EPIPE < 0 := by decide
  simp [Output.startMixJob, primed, underflow, other, negative]

theorem step_underflow {answers : Answers} (underflow : session.underflow event = some answers)
    (recovered : 0 ≤ answers.recoverUnderflow) (written : 0 ≤ answers.writeSilence)
    (taken : session.step event = some next) : session.output.Reprimed next.output := by
  have reprimed : session.output.Reprimed (session.output.handleAlsaError answers (-EPIPE)) := by
    apply Output.handleAlsaError_reprimed
    rw [alsaError_epipe, underflowError_none recovered written]
  unfold Session.underflow at underflow
  split at underflow
  next given processStart starting =>
    obtain ⟨⟨primed, failed⟩, same⟩ := (Option.ite_none_right_eq_some).mp underflow
    obtain rfl := Option.some.inj same
    simp only [step, starting, startMixJob_underflow processStart primed failed] at taken
    obtain rfl := Option.some.inj taken
    rwa [endProcess_known reprimed.scheduled]
  next given processStart job finishing =>
    obtain ⟨⟨primed, short, failed⟩, same⟩ := (Option.ite_none_right_eq_some).mp underflow
    obtain rfl := Option.some.inj same
    have finished : session.output.finishMixJob given job =
        (false, session.output.handleAlsaError given (-EPIPE)) := by
      rw [Output.finishMixJob, if_pos short, failed]
    simp only [step, finishing, finished] at taken
    obtain rfl := Option.some.inj taken
    rwa [endProcess_known reprimed.scheduled]
  next => cases underflow

theorem step_error_shutsDown {answers : Answers} {code : Int32}
    (failed : session.error event = some (answers, code)) :
    ∃ next, session.step event = some next ∧ next.output.shuttingDown = true := by
  have shutting : (session.output.handleAsError answers code).shuttingDown = true := rfl
  refine ⟨_, step_error failed, ?_⟩
  unfold Output.endProcess
  split
  · exact shutting
  · rfl

theorem handled_iff (session : Session) (event : Event) (settled : session.Settled) :
    session.Handled event ↔ session.Unrecovered event := by
  constructor
  · intro handled answers code failed
    constructor
    · obtain ⟨next, taken, shutting⟩ := step_error_shutsDown failed
      have running := settled.mixing (error_mixing failed)
      rcases (handled next taken).shutdown shutting with before | ⟨given, same, also, negative, -⟩
      · cases before.symm.trans running
      · cases failed.symm.trans also
        exact negative
    · intro recovers
      obtain ⟨next, taken, left⟩ := step_recovered failed recovers
      have recovered := (handled next taken).recovered answers code failed recovers
      cases left.shuttingDown.symm.trans recovered.running
  · intro unrecovered next taken
    refine ⟨?_, ?_, ?_⟩
    · intro shutting
      cases failed : session.error event with
      | none =>
        rw [step_goesOn settled failed taken] at shutting
        exact .inl shutting
      | some failure =>
        obtain ⟨answers, code⟩ := failure
        exact .inr ⟨answers, code, rfl, unrecovered answers code failed⟩
    · exact fun answers code failed recovers =>
        absurd recovers (unrecovered answers code failed).2
    · exact fun answers underflow recovered written =>
        step_underflow underflow recovered written taken

theorem handled_iff_unrecovered (framesPerTick : Ratio) (mixBufFrames : UInt32)
    (events : List Event) :
    Meets step Handled { output := { framesPerTick, mixBufFrames } } events ↔
      Meets step Unrecovered { output := { framesPerTick, mixBufFrames } } events :=
  meets_congr step Handled Unrecovered Settled handled_iff
    (fun _ _ _ settled _ taken => step_settled settled taken) _ events
    ⟨fun _ => .inl rfl, fun _ => rfl⟩

-- A signal interrupts the first write. ALSA recovers from it, and the output shuts down with
-- a time to go on. A mix of which ALSA takes a part shuts it down, too.
theorem recovered_output_shuts_down :
    let start : Session := { output := { framesPerTick := ⟨3, 62500⟩, mixBufFrames := 1680 } }
    let interrupted : Event := .startMixJob { writeSilence := -EINTR, recover := 0 }
    let short : List Event :=
      [.process 0, .startMixJob { writeSilence := 1680 }, .process 1000000,
        .startMixJob { avail := 1680 }, .finishMixJob { write := 1000 }]
    (∃ session, run step start [.process 0, interrupted] = some session ∧
      session.output.primed = false ∧ session.output.nextSchedTimeKnown = true ∧
      session.output.shuttingDown = true) ∧
      ¬ Meets step Handled start [.process 0, interrupted] ∧
      (∃ session, run step start short = some session ∧ session.output.shuttingDown = true) ∧
      ¬ Meets step Handled start short := by
  refine ⟨⟨_, rfl, rfl, rfl, rfl⟩, ?_, ⟨_, rfl, rfl⟩, ?_⟩
  · rintro ⟨-, later⟩
    have handled := (later _ rfl).1 _ rfl
    have recovered := handled.recovered { writeSilence := -EINTR, recover := 0 } (-EINTR) rfl
      (by unfold Answers.Recovers; decide)
    cases recovered.running
  · rintro ⟨-, primed⟩
    obtain ⟨-, again⟩ := primed _ rfl
    obtain ⟨-, mixed⟩ := again _ rfl
    obtain ⟨-, written⟩ := mixed _ rfl
    have handled := (written _ rfl).1 _ rfl
    rcases handled.shutdown rfl with before | ⟨answers, code, failed, negative, -⟩
    · cases before
    · obtain ⟨-, rfl⟩ := Prod.mk.inj (Option.some.inj failed)
      exact absurd negative (by decide)

end Session

end MojoMedia.Audio.Alsa
