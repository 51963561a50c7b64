import MojoMedia.Transport.CircularBufferCases

set_option autoImplicit false

-- Any call can be made at any time, with any packet, and the other end of the pipe can answer
-- anything until the pipe is closed.
namespace MojoMedia.CircularBuffer

open Runs

inductive Input where
  | init (size : Nat) (calls : Adapter.BufferCalls)
  | setSignalCallback (cbk : Option Nat)
  | setWatermarks (hiWaterMark loWaterMark : Nat)
  | createMediaPacket (size : Nat) (noWrap : Bool) (packet : MappedPacket)
  | sendMediaPacket (packet : MappedPacket) (cbk : Option Nat)
  | cancelMediaPacket (packet : MappedPacket)
  | flush
  | handleSendPacket (seqNum : Nat) (result : SendResult)
  | handleFlush
  | connectionError
  | signalTask

structure Monitor where
  adapter : Adapter
  calls : List (Nat × MediaResult) := []
  deriving Repr, DecidableEq

namespace Monitor

def handle (adapter : Adapter) : Input → Option Adapter
  | .init size calls => some (adapter.init size calls).1
  | .setSignalCallback cbk => some (adapter.setSignalCallback cbk)
  | .setWatermarks hiWaterMark loWaterMark => some (adapter.setWatermarks hiWaterMark loWaterMark)
  | .createMediaPacket size noWrap packet =>
    some (adapter.createMediaPacket size noWrap packet).adapter
  | .sendMediaPacket packet cbk => some (adapter.sendMediaPacket packet cbk).adapter
  | .cancelMediaPacket packet => some (adapter.cancelMediaPacket packet).adapter
  | .flush => some adapter.flush.adapter
  | .handleSendPacket seqNum result =>
    if adapter.pipeBound then some (adapter.handleSendPacket seqNum result).1 else none
  | .handleFlush => if adapter.pipeBound then adapter.handleFlush else none
  | .connectionError => if adapter.pipeBound then some (adapter.fault .connectionLost) else none
  | .signalTask => none

def runTask (monitor : Monitor) : Option Monitor :=
  if 0 < monitor.adapter.postedTasks then
    let adapter := { monitor.adapter with postedTasks := monitor.adapter.postedTasks - 1 }
    let (next, told) := adapter.handleSignalCallback
    let made := match adapter.signalCbk, told with
      | some cbk, some state => [(cbk, state)]
      | _, _ => []
    some { adapter := next, calls := monitor.calls ++ made }
  else none

def step (monitor : Monitor) (input : Input) : Option Monitor :=
  match input with
  | .signalTask => monitor.runTask
  | input => (handle monitor.adapter input).map fun adapter => { monitor with adapter }

def start (rd wr flushGeneration seqNumGen : Nat) : Monitor :=
  { adapter := { rd, wr, flushGeneration, seqNumGen } }

end Monitor

namespace Adapter

def faultReason (adapter : Adapter) : Input → Option MediaResult
  | .init size calls =>
    if adapter.bufferHandle then
      if adapter.bufferSize ≠ size then some .badState else none
    else if !calls.create then some .insufficientResources
    else if !calls.map then some .unknownError
    else if !calls.duplicate then some .unknownError
    else none
  | .sendMediaPacket packet _ =>
    if packet.packet.isSome && !adapter.pipeBound then some .connectionLost else none
  | .handleSendPacket seqNum _ =>
    match adapter.inFlightQueue with
    | [] => some .unknownError
    | front :: _ =>
      if front.seqNum ≠ seqNum then some .unknownError
      else if adapter.flushInProgress || adapter.validRd front.postConsumeRd then none
      else some .unknownError
  | .handleFlush => if adapter.flushInProgress then none else some .protocolError
  | .connectionError => some .connectionLost
  | _ => none

theorem faultReason_ne_shuttingDown (adapter : Adapter) (input : Input) :
    adapter.faultReason input ≠ some .shuttingDown := by
  cases input <;> simp only [faultReason]
  all_goals repeat' split
  all_goals simp

@[simp] theorem internalState_updateSignalled (adapter : Adapter) :
    adapter.updateSignalled.internalState = adapter.internalState := by
  obtain ⟨_, _, _, same⟩ := adapter.updateSignalled_eq
  rw [same]

-- `Fault` is called from the OK state for this reason, or the adapter stays in the OK state.
inductive Faulted (reason : Option MediaResult) (next : Adapter) : Prop where
  | kept (none : reason = none) (running : next.internalState = .ok)
  | failed (given : MediaResult) (failing : Adapter) (same : reason = some given)
    (running : failing.internalState = .ok) (fault : next = failing.fault given)

section Running

variable {adapter next : Adapter} (running : adapter.internalState = .ok)

include running

theorem init_faulted (size : Nat) (calls : BufferCalls) :
    Faulted (adapter.faultReason (.init size calls)) (adapter.init size calls).1 := by
  by_cases made : adapter.bufferHandle = true
  · simp only [init, faultReason, if_pos made]
    by_cases other : adapter.bufferSize ≠ size
    · simp only [if_pos other]
      exact .failed _ adapter rfl running rfl
    · simp only [if_neg other]
      exact .kept rfl running
  · obtain ⟨create, map, duplicate⟩ := calls
    simp only [init, faultReason, if_neg made]
    cases create with
    | false => exact .failed _ adapter rfl running rfl
    | true =>
      cases map with
      | false =>
        exact .failed _ { adapter with bufferHandle := true, bufferSize := size } rfl running rfl
      | true =>
        cases duplicate with
        | false =>
          exact .failed _ { adapter with bufferHandle := true, bufferSize := size, buffer := true }
            rfl running rfl
        | true => exact .kept rfl running

theorem sendMediaPacket_faulted (packet : MappedPacket) (cbk : Option Nat) :
    Faulted (adapter.faultReason (.sendMediaPacket packet cbk))
      (adapter.sendMediaPacket packet cbk).adapter := by
  cases held : packet.packet with
  | none =>
    simp only [sendMediaPacket, faultReason, held]
    exact .kept rfl running
  | some media =>
    by_cases bound : adapter.pipeBound = true
    · simp only [sendMediaPacket, faultReason, held, bound, Bool.not_true, Bool.and_false,
        Bool.false_eq_true, if_false, if_true]
      split
      next => exact .kept rfl running
      next => exact .kept rfl running
    · have faulty := adapter.fault_faulted_after .connectionLost
      simp only [sendMediaPacket, faultReason, held, bound, faulty, Bool.not_false,
        Option.isSome_some, Bool.and_self, Bool.true_or, Bool.false_eq_true, if_true, if_false]
      exact .failed _ adapter rfl running rfl

theorem handleSendPacket_faulted (seqNum : Nat) (result : SendResult) :
    Faulted (adapter.faultReason (.handleSendPacket seqNum result))
      (adapter.handleSendPacket seqNum result).1 := by
  unfold handleSendPacket faultReason
  cases adapter.inFlightQueue with
  | nil => exact .failed _ adapter rfl running rfl
  | cons front rest =>
    simp only
    split
    next => exact .failed _ adapter rfl running rfl
    next =>
      have same : ({ adapter with inFlightQueue := rest }).validRd front.postConsumeRd =
          adapter.validRd front.postConsumeRd := rfl
      by_cases flushing : adapter.flushInProgress = true
      · simp only [flushing, Bool.true_or, if_true]
        exact .kept rfl running
      · by_cases valid : adapter.validRd front.postConsumeRd = true
        · simp only [if_neg flushing, same, valid, Bool.or_true, if_true]
          exact .kept rfl (by simpa using running)
        · simp only [if_neg flushing, same, if_neg valid]
          rw [if_neg (by simp [flushing, valid])]
          exact .failed _ { adapter with inFlightQueue := rest } rfl running rfl

theorem handleFlush_faulted (handled : adapter.handleFlush = some next) :
    Faulted (adapter.faultReason .handleFlush) next := by
  unfold faultReason
  rcases adapter.handleFlush_cases handled with
    ⟨faulty, -⟩ | ⟨-, idle, rfl⟩ | ⟨front, rest, -, flushing, -, rfl⟩
  · exact absurd running faulty
  · rw [idle]
    exact .failed _ adapter rfl running rfl
  · rw [flushing]
    exact .kept rfl (by simpa using running)

theorem handle_faulted (input : Input) (taken : Monitor.handle adapter input = some next) :
    Faulted (adapter.faultReason input) next := by
  cases input with
  | init size calls =>
    obtain rfl := Option.some.inj taken
    exact init_faulted running size calls
  | setSignalCallback cbk =>
    obtain rfl := Option.some.inj taken
    rcases adapter.setSignalCallback_cases cbk with same | moved
    · rw [same]
      exact .kept rfl running
    · rw [moved]
      exact .kept rfl (by simpa using running)
  | setWatermarks hiWaterMark loWaterMark =>
    obtain rfl := Option.some.inj taken
    rcases adapter.setWatermarks_cases hiWaterMark loWaterMark with same | ⟨-, moved⟩
    · rw [same]
      exact .kept rfl running
    · rw [moved]
      exact .kept rfl (by simpa using running)
  | createMediaPacket size noWrap packet =>
    obtain rfl := Option.some.inj taken
    rcases adapter.createMediaPacket_cases size noWrap packet with
      ⟨-, same⟩ | ⟨-, -, -, data, length, outcome⟩
    · rw [same]
      exact .kept rfl running
    · rw [outcome]
      exact .kept rfl (by simpa using running)
  | sendMediaPacket packet cbk =>
    obtain rfl := Option.some.inj taken
    exact sendMediaPacket_faulted running packet cbk
  | cancelMediaPacket packet =>
    obtain rfl := Option.some.inj taken
    rcases adapter.cancelMediaPacket_cases packet with ⟨-, same⟩ | ⟨-, -, moved⟩
    · rw [same]
      exact .kept rfl running
    · rw [moved]
      exact .kept rfl (by simpa using running)
  | flush =>
    obtain rfl := Option.some.inj taken
    rcases adapter.flush_cases with ⟨same, -⟩ | ⟨-, -, -, moved⟩
    · rw [same]
      exact .kept rfl running
    · rw [moved]
      exact .kept rfl running
  | handleSendPacket seqNum result =>
    simp only [Monitor.handle, Option.ite_none_right_eq_some, Option.some.injEq] at taken
    obtain ⟨-, rfl⟩ := taken
    exact handleSendPacket_faulted running seqNum result
  | handleFlush =>
    simp only [Monitor.handle, Option.ite_none_right_eq_some] at taken
    exact handleFlush_faulted running taken.2
  | connectionError =>
    simp only [Monitor.handle, Option.ite_none_right_eq_some, Option.some.injEq] at taken
    obtain ⟨-, rfl⟩ := taken
    exact .failed _ adapter rfl running rfl
  | signalTask => cases taken

end Running

def verdict (adapter : Adapter) : MediaResult × Bool :=
  (adapter.internalState, adapter.faultCbkMade)

@[simp] theorem verdict_updateSignalled (adapter : Adapter) :
    adapter.updateSignalled.verdict = adapter.verdict := by
  obtain ⟨_, _, _, same⟩ := adapter.updateSignalled_eq
  rw [same]
  rfl

theorem verdict_fault (adapter : Adapter) (reason : MediaResult)
    (faulty : adapter.internalState ≠ .ok) : (adapter.fault reason).verdict = adapter.verdict := by
  rw [adapter.fault_faulted reason faulty, verdict_updateSignalled]

theorem verdict_init (adapter : Adapter) (size : Nat) (calls : BufferCalls)
    (faulty : adapter.internalState ≠ .ok) :
    (adapter.init size calls).1.verdict = adapter.verdict := by
  unfold init
  split
  next =>
    simp only
    split
    next => exact verdict_fault adapter _ faulty
    next => rfl
  next =>
    split
    next => exact verdict_fault adapter _ faulty
    next =>
      simp only
      split
      next =>
        exact verdict_fault { adapter with bufferHandle := true, bufferSize := size } _ faulty
      next =>
        split
        next =>
          exact verdict_fault
            { adapter with bufferHandle := true, bufferSize := size, buffer := true } _ faulty
        next => rfl

theorem verdict_sendMediaPacket (adapter : Adapter) (packet : MappedPacket) (cbk : Option Nat)
    (faulty : adapter.internalState ≠ .ok) :
    (adapter.sendMediaPacket packet cbk).adapter.verdict = adapter.verdict := by
  rcases adapter.sendMediaPacket_cases packet cbk with
    ⟨-, ⟨-, same⟩ | ⟨-, failed⟩⟩ | ⟨media, -, -, running, -⟩
  · rw [same]
  · rw [failed]
    exact adapter.verdict_fault _ faulty
  · exact absurd running faulty

theorem verdict_handleSendPacket (adapter : Adapter) (seqNum : Nat) (result : SendResult)
    (faulty : adapter.internalState ≠ .ok) :
    (adapter.handleSendPacket seqNum result).1.verdict = adapter.verdict := by
  rcases adapter.handleSendPacket_cases seqNum result with
    failed | ⟨front, others, -, -, ⟨-, moved⟩ | ⟨-, -, moved⟩ | ⟨-, -, failed⟩⟩
  · rw [failed]
    exact adapter.verdict_fault _ faulty
  · rw [moved]
    rfl
  · rw [moved, verdict_updateSignalled]
    rfl
  · rw [failed]
    exact verdict_fault { adapter with inFlightQueue := others } _ faulty

theorem verdict_setSignalCallback (adapter : Adapter) (cbk : Option Nat) :
    (adapter.setSignalCallback cbk).verdict = adapter.verdict := by
  rcases adapter.setSignalCallback_cases cbk with same | moved
  · rw [same]
    rfl
  · rw [moved, verdict_updateSignalled]
    rfl

theorem verdict_setWatermarks (adapter : Adapter) (hiWaterMark loWaterMark : Nat) :
    (adapter.setWatermarks hiWaterMark loWaterMark).verdict = adapter.verdict := by
  rcases adapter.setWatermarks_cases hiWaterMark loWaterMark with same | ⟨-, moved⟩
  · rw [same]
  · rw [moved, verdict_updateSignalled]
    rfl

theorem handle_verdict (adapter next : Adapter) (input : Input)
    (faulty : adapter.internalState ≠ .ok) (taken : Monitor.handle adapter input = some next) :
    next.verdict = adapter.verdict := by
  cases input with
  | init size calls =>
    obtain rfl := Option.some.inj taken
    exact adapter.verdict_init size calls faulty
  | setSignalCallback cbk =>
    obtain rfl := Option.some.inj taken
    exact adapter.verdict_setSignalCallback cbk
  | setWatermarks hiWaterMark loWaterMark =>
    obtain rfl := Option.some.inj taken
    exact adapter.verdict_setWatermarks hiWaterMark loWaterMark
  | createMediaPacket size noWrap packet =>
    obtain rfl := Option.some.inj taken
    rcases adapter.createMediaPacket_cases size noWrap packet with ⟨-, same⟩ | ⟨running, -⟩
    · rw [same]
    · exact absurd running faulty
  | sendMediaPacket packet cbk =>
    obtain rfl := Option.some.inj taken
    exact adapter.verdict_sendMediaPacket packet cbk faulty
  | cancelMediaPacket packet =>
    obtain rfl := Option.some.inj taken
    rcases adapter.cancelMediaPacket_cases packet with ⟨-, same⟩ | ⟨running, -⟩
    · rw [same]
    · exact absurd running faulty
  | flush =>
    obtain rfl := Option.some.inj taken
    rcases adapter.flush_cases with ⟨same, -⟩ | ⟨running, -⟩
    · rw [same]
    · exact absurd running faulty
  | handleSendPacket seqNum result =>
    simp only [Monitor.handle, Option.ite_none_right_eq_some, Option.some.injEq] at taken
    obtain ⟨-, rfl⟩ := taken
    exact adapter.verdict_handleSendPacket seqNum result faulty
  | handleFlush =>
    simp only [Monitor.handle, Option.ite_none_right_eq_some] at taken
    rcases adapter.handleFlush_cases taken.2 with
      ⟨-, rfl⟩ | ⟨running, -⟩ | ⟨front, rest, running, -⟩
    · rfl
    · exact absurd running faulty
    · exact absurd running faulty
  | connectionError =>
    simp only [Monitor.handle, Option.ite_none_right_eq_some, Option.some.injEq] at taken
    obtain ⟨-, rfl⟩ := taken
    exact adapter.verdict_fault _ faulty
  | signalTask => cases taken

theorem fault_shuttingDown (adapter : Adapter) (reason : MediaResult)
    (running : adapter.internalState = .ok) :
    (adapter.fault reason).internalState = .shuttingDown ∧
      (adapter.fault reason).signalCbk = none := by
  obtain ⟨_, _, _, same⟩ := adapter.cleanup.updateSignalled_eq
  rw [adapter.fault_running reason running, same]
  exact ⟨rfl, rfl⟩

end Adapter

-- The callbacks since `calls`, once the adapter has failed: at most one, and its state is
-- the one that `Cleanup` leaves.
structure Silenced (calls since : List (Nat × MediaResult)) (monitor : Monitor) : Prop where
  grown : monitor.calls = calls ++ since
  state : monitor.adapter.internalState = .shuttingDown
  told : ∀ call ∈ since, call.2 = .shuttingDown
  once : since = [] ∨ since.length = 1 ∧ monitor.adapter.faultCbkMade = true

section Silenced

variable {calls since : List (Nat × MediaResult)} {monitor next : Monitor}

theorem Silenced.runTask (silenced : Silenced calls since monitor)
    (taken : monitor.runTask = some next) : ∃ more, Silenced calls more next := by
  obtain ⟨grown, state, told, once⟩ := silenced
  simp only [Monitor.runTask, Adapter.handleSignalCallback, Option.ite_none_right_eq_some,
    Option.some.injEq] at taken
  obtain ⟨-, rfl⟩ := taken
  by_cases squashed : (monitor.adapter.faultCbkMade || !monitor.adapter.signalled) = true
  · simp only [if_pos squashed]
    refine ⟨since, ?_, state, told, once⟩
    cases monitor.adapter.signalCbk <;> simpa using grown
  · simp only [if_neg squashed]
    cases registered : monitor.adapter.signalCbk with
    | none => exact ⟨since, by simpa using grown, state, told, once⟩
    | some cbk =>
      have unmade : monitor.adapter.faultCbkMade ≠ true := by
        intro made
        simp [made] at squashed
      obtain rfl : since = [] := once.resolve_right fun twice => unmade twice.2
      have faulty : monitor.adapter.faulted = true := by simp [Adapter.faulted, state]
      refine ⟨[(cbk, .shuttingDown)], ?_, ?_, by simp, .inr ⟨rfl, ?_⟩⟩
      · simp [grown, state]
      · simpa using state
      · simp [Adapter.faulted, state]

theorem Silenced.step (silenced : Silenced calls since monitor) (input : Input)
    (taken : monitor.step input = some next) : ∃ more, Silenced calls more next := by
  by_cases task : input = .signalTask
  · subst task
    exact silenced.runTask taken
  · have handled : (Monitor.handle monitor.adapter input).map
        (fun adapter => { monitor with adapter }) = some next := by
      cases input <;> first | exact absurd rfl task | exact taken
    obtain ⟨adapter, moved, rfl⟩ := Option.map_eq_some_iff.mp handled
    have faulty : monitor.adapter.internalState ≠ .ok := by simp [silenced.state]
    have same := Adapter.handle_verdict monitor.adapter adapter input faulty moved
    simp only [Adapter.verdict, Prod.mk.injEq] at same
    refine ⟨since, silenced.grown, ?_, silenced.told, ?_⟩
    · simpa [same.1] using silenced.state
    · simpa [same.2] using silenced.once

theorem Silenced.run (inputs : List Input) (final : Monitor)
    (silenced : Silenced calls since monitor)
    (reached : Runs.run Monitor.step monitor inputs = some final) :
    ∃ more, Silenced calls more final := by
  refine invariant_of_run Monitor.step (fun monitor => ∃ more, Silenced calls more monitor) ?_
    monitor final inputs ⟨since, silenced⟩ reached
  rintro state input next ⟨more, kept⟩ taken
  exact kept.step input taken

end Silenced

theorem silenced_of_fault {running final : Monitor} (ok : running.adapter.internalState = .ok)
    {input : Input} {reason : MediaResult}
    (faults : running.adapter.faultReason input = some reason)
    {after : List Input} (reached : run Monitor.step running (input :: after) = some final) :
    ∃ since, Silenced running.calls since final := by
  obtain ⟨failed, taken, later⟩ := (run_cons _ _ _ _ _).mp reached
  have handled : (Monitor.handle running.adapter input).map
      (fun adapter => { running with adapter }) = some failed := by
    cases input <;> first | exact taken | cases faults
  obtain ⟨adapter, moved, rfl⟩ := Option.map_eq_some_iff.mp handled
  rcases Adapter.handle_faulted ok input moved with ⟨none, -⟩ | ⟨given, failing, -, was, rfl⟩
  · cases faults.symm.trans none
  · have state := (failing.fault_shuttingDown given was).1
    have silent : Silenced running.calls [] { running with adapter := failing.fault given } :=
      ⟨(List.append_nil _).symm, state, by simp, .inl rfl⟩
    exact silent.run after final later

def Reported (cbk : Nat) (reason : MediaResult) (calls : List (Nat × MediaResult)) : Prop :=
  ∃ earlier, calls = earlier ++ [(cbk, reason)] ∧ ∀ call ∈ earlier, call.2 = .ok

theorem fault_never_reported (running : Monitor) (ok : running.adapter.internalState = .ok)
    (cbk : Nat) (input : Input) (reason : MediaResult)
    (faults : running.adapter.faultReason input = some reason) (after : List Input)
    (final : Monitor) (later : run Monitor.step running (input :: after) = some final)
    (since : List (Nat × MediaResult)) (grown : final.calls = running.calls ++ since) :
    ¬ Reported cbk reason since := by
  rintro ⟨earlier, rfl, -⟩
  obtain ⟨more, silenced⟩ := silenced_of_fault ok faults later
  obtain rfl := List.append_cancel_left (silenced.grown.symm.trans grown)
  have told := silenced.told (cbk, reason) (by simp)
  exact running.adapter.faultReason_ne_shuttingDown input (faults.trans (congrArg some told))

-- A new callback is registered after the connection is lost. It is told of a shutdown, the
-- other one of nothing.
theorem fault_never_reported_late :
    ∃ running final since, run Monitor.step (.start 0 0 0 0)
        [.init 8 ⟨true, true, true⟩, .setSignalCallback (some 1)] = some running ∧
      run Monitor.step running
        [.connectionError, .setSignalCallback (some 2), .signalTask] = some final ∧
      final.calls = running.calls ++ since ∧ since = [(2, .shuttingDown)] ∧
      ¬ Reported 1 .connectionLost since := by
  have runs : ∃ running final since, run Monitor.step (.start 0 0 0 0)
        [.init 8 ⟨true, true, true⟩, .setSignalCallback (some 1)] = some running ∧
      run Monitor.step running
        [.connectionError, .setSignalCallback (some 2), .signalTask] = some final ∧
      final.calls = running.calls ++ since ∧ since = [(2, .shuttingDown)] ∧
      running.adapter.internalState = .ok ∧
      running.adapter.faultReason .connectionError = some .connectionLost :=
    ⟨_, _, _, rfl, rfl, rfl, rfl, rfl, rfl⟩
  obtain ⟨running, final, since, reached, later, grown, told, ok, faults⟩ := runs
  exact ⟨running, final, since, reached, later, grown, told,
    fault_never_reported running ok 1 .connectionError .connectionLost faults
      [.setSignalCallback (some 2), .signalTask] final later since grown⟩

theorem connection_loss_unreported :
    ∃ running final, run Monitor.step (.start 0 0 0 0)
        [.init 8 ⟨true, true, true⟩, .setSignalCallback (some 1)] = some running ∧
      running.adapter.internalState = .ok ∧ running.adapter.signalCbk = some 1 ∧
      running.adapter.faultReason .connectionError = some .connectionLost ∧
      run Monitor.step running [.connectionError, .signalTask] = some final ∧
      final.adapter.postedTasks = 0 ∧ running.calls = [] ∧ final.calls = [] ∧
      ¬ Reported 1 .connectionLost final.calls := by
  have runs : ∃ running final, run Monitor.step (.start 0 0 0 0)
        [.init 8 ⟨true, true, true⟩, .setSignalCallback (some 1)] = some running ∧
      running.adapter.internalState = .ok ∧ running.adapter.signalCbk = some 1 ∧
      running.adapter.faultReason .connectionError = some .connectionLost ∧
      run Monitor.step running [.connectionError, .signalTask] = some final ∧
      final.adapter.postedTasks = 0 ∧ running.calls = [] ∧ final.calls = [] :=
    ⟨_, _, rfl, rfl, rfl, rfl, rfl, rfl, rfl, rfl⟩
  obtain ⟨running, final, reached, ok, registered, faults, later, idle, earlier, none⟩ := runs
  refine ⟨running, final, reached, ok, registered, faults, later, idle, earlier, none, ?_⟩
  rintro ⟨calls, same, -⟩
  rw [none] at same
  simp at same

end MojoMedia.CircularBuffer
