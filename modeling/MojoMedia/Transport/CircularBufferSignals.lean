import MojoMedia.Transport.CircularBufferCases

set_option autoImplicit false

namespace MojoMedia.CircularBuffer

open Runs

namespace Adapter

structure Signals (adapter : Adapter) : Prop where
  flushing : adapter.flushInProgress = true → adapter.signalled = false
  below : adapter.flushInProgress = false → adapter.getPending < adapter.loWaterMark →
    adapter.signalled = true
  above : adapter.flushInProgress = false → adapter.hiWaterMark ≤ adapter.getPending →
    adapter.signalled = false
  scheduled : adapter.cbkScheduled = true ↔ adapter.postedTasks = 1

structure Signalling (adapter : Adapter) : Prop where
  marks : adapter.loWaterMark ≤ adapter.hiWaterMark
  posted : adapter.postedTasks = if adapter.cbkScheduled then 1 else 0
  signals : adapter.internalState = .ok → adapter.Signals

def signalView (adapter : Adapter) : (Bool × Bool × Bool × Nat) × Nat × Nat × Nat × MediaResult :=
  ((adapter.flushInProgress, adapter.signalled, adapter.cbkScheduled, adapter.postedTasks),
    adapter.hiWaterMark, adapter.loWaterMark, adapter.getPending, adapter.internalState)

section Signalling

variable {adapter other : Adapter}

theorem Signalling.congr (signalling : adapter.Signalling)
    (same : other.signalView = adapter.signalView) : other.Signalling := by
  simp only [signalView, Prod.mk.injEq] at same
  obtain ⟨⟨flushing, signalled, scheduled, tasks⟩, hi, lo, pending, state⟩ := same
  refine ⟨?_, ?_, fun running => ?_⟩
  · rw [hi, lo]
    exact signalling.marks
  · rw [tasks, scheduled]
    exact signalling.posted
  · have signals := signalling.signals (state ▸ running)
    constructor
    · simpa only [flushing, signalled] using signals.flushing
    · simpa only [flushing, signalled, pending, lo] using signals.below
    · simpa only [flushing, signalled, pending, hi] using signals.above
    · simpa only [scheduled, tasks] using signals.scheduled

theorem scheduled_iff (posted : adapter.postedTasks = if adapter.cbkScheduled then 1 else 0) :
    adapter.cbkScheduled = true ↔ adapter.postedTasks = 1 := by
  rw [posted]
  cases adapter.cbkScheduled <;> simp

theorem nextSignalled_flushing (adapter : Adapter) (running : adapter.internalState = .ok)
    (flushing : adapter.flushInProgress = true) : adapter.nextSignalled = false := by
  simp [nextSignalled, faulted, busy, running, flushing]

theorem nextSignalled_idle (adapter : Adapter)
    (marks : adapter.loWaterMark ≤ adapter.hiWaterMark)
    (running : adapter.internalState = .ok) (idle : adapter.flushInProgress = false) :
    (adapter.getPending < adapter.loWaterMark → adapter.nextSignalled = true) ∧
      (adapter.hiWaterMark ≤ adapter.getPending → adapter.nextSignalled = false) := by
  have live : adapter.faulted = false := by simp [running]
  have free : adapter.busy = false := idle
  simp only [nextSignalled, live, free, Bool.false_eq_true, if_false]
  cases before : adapter.signalled with
  | false =>
    by_cases low : adapter.getPending < adapter.loWaterMark
    · simp [low]
      omega
    · simp [low]
  | true =>
    by_cases high : adapter.hiWaterMark ≤ adapter.getPending
    · simp [high]
      omega
    · simp [high]

theorem updateSignalled_signalling (adapter : Adapter)
    (marks : adapter.loWaterMark ≤ adapter.hiWaterMark)
    (posted : adapter.postedTasks = if adapter.cbkScheduled then 1 else 0) :
    adapter.updateSignalled.Signalling := by
  have level (tasks : Nat) (scheduled : Bool) (counted : tasks = if scheduled then 1 else 0) :
      Signalling { adapter with
        signalled := adapter.nextSignalled
        postedTasks := tasks
        cbkScheduled := scheduled } := by
    refine ⟨marks, counted, fun running => ⟨?_, ?_, ?_, scheduled_iff counted⟩⟩
    · exact fun flushing => nextSignalled_flushing adapter running flushing
    · exact fun idle => (nextSignalled_idle adapter marks running idle).1
    · exact fun idle => (nextSignalled_idle adapter marks running idle).2
  unfold updateSignalled
  simp only
  split
  next schedule =>
    simp only [Bool.and_eq_true, Bool.not_eq_true'] at schedule
    refine level _ true ?_
    rw [posted, schedule.1.2]
    rfl
  next => exact level _ _ posted

theorem Signalling.updateSignalled (signalling : adapter.Signalling) :
    adapter.updateSignalled.Signalling :=
  updateSignalled_signalling adapter signalling.marks signalling.posted

theorem Signalling.fault (signalling : adapter.Signalling) (reason : MediaResult) :
    (adapter.fault reason).Signalling := by
  by_cases running : adapter.internalState = .ok
  · rw [adapter.fault_running reason running]
    exact updateSignalled_signalling adapter.cleanup signalling.marks signalling.posted
  · rw [adapter.fault_faulted reason running]
    exact signalling.updateSignalled

theorem Signalling.createMediaPacket (signalling : adapter.Signalling) (size : Nat)
    (noWrap : Bool) (packet : MappedPacket) :
    (adapter.createMediaPacket size noWrap packet).adapter.Signalling := by
  rcases adapter.createMediaPacket_cases size noWrap packet with
    ⟨-, same⟩ | ⟨-, -, -, data, length, outcome⟩
  · rw [same]
    exact signalling
  · rw [outcome]
    exact updateSignalled_signalling _ signalling.marks signalling.posted

theorem Signalling.sendMediaPacket (signalling : adapter.Signalling) (packet : MappedPacket)
    (cbk : Option Nat) : (adapter.sendMediaPacket packet cbk).adapter.Signalling := by
  rcases adapter.sendMediaPacket_cases packet cbk with
    ⟨-, ⟨-, same⟩ | ⟨-, failed⟩⟩ | ⟨media, -, -, -, -, outcome⟩
  · rw [same]
    exact signalling
  · rw [failed]
    exact signalling.fault _
  · rw [outcome]
    exact signalling.congr rfl

theorem Signalling.cancelMediaPacket (signalling : adapter.Signalling) (packet : MappedPacket) :
    (adapter.cancelMediaPacket packet).adapter.Signalling := by
  rcases adapter.cancelMediaPacket_cases packet with ⟨-, same⟩ | ⟨-, -, moved⟩
  · rw [same]
    exact signalling
  · rw [moved]
    exact updateSignalled_signalling _ signalling.marks signalling.posted

theorem Signalling.flush (signalling : adapter.Signalling)
    (silent : adapter.internalState = .ok → adapter.flushInProgress = false →
      adapter.signalled = false) : adapter.flush.adapter.Signalling := by
  rcases adapter.flush_cases with ⟨same, -⟩ | ⟨running, idle, -, moved⟩
  · rw [same]
    exact signalling
  · rw [moved]
    refine ⟨signalling.marks, signalling.posted, fun _ => ?_⟩
    exact ⟨fun _ => silent running idle, by simp, by simp, scheduled_iff signalling.posted⟩

theorem Signalling.handleSendPacket (signalling : adapter.Signalling) (seqNum : Nat)
    (result : SendResult) : (adapter.handleSendPacket seqNum result).1.Signalling := by
  rcases adapter.handleSendPacket_cases seqNum result with
    failed | ⟨front, others, -, -, ⟨-, moved⟩ | ⟨-, -, moved⟩ | ⟨-, -, failed⟩⟩
  · rw [failed]
    exact signalling.fault _
  · rw [moved]
    exact signalling.congr rfl
  · rw [moved]
    exact updateSignalled_signalling _ signalling.marks signalling.posted
  · have kept : Signalling { adapter with inFlightQueue := others } := signalling.congr rfl
    rw [failed]
    exact kept.fault _

theorem Signalling.handleFlush (signalling : adapter.Signalling)
    (handled : adapter.handleFlush = some other) : other.Signalling := by
  rcases adapter.handleFlush_cases handled with
    ⟨-, rfl⟩ | ⟨-, -, rfl⟩ | ⟨front, rest, -, -, -, rfl⟩
  · exact signalling
  · exact signalling.fault _
  · exact updateSignalled_signalling _ signalling.marks signalling.posted

theorem Signalling.setWatermarks (signalling : adapter.Signalling)
    (hiWaterMark loWaterMark : Nat) :
    (adapter.setWatermarks hiWaterMark loWaterMark).Signalling := by
  rcases adapter.setWatermarks_cases hiWaterMark loWaterMark with same | ⟨order, moved⟩
  · rw [same]
    exact signalling
  · rw [moved]
    exact updateSignalled_signalling _ order signalling.posted

theorem Signalling.setSignalCallback (signalling : adapter.Signalling) (cbk : Option Nat) :
    (adapter.setSignalCallback cbk).Signalling := by
  rcases adapter.setSignalCallback_cases cbk with same | moved
  · rw [same]
    exact signalling.congr rfl
  · rw [moved]
    exact updateSignalled_signalling _ signalling.marks signalling.posted

theorem Signalling.handleSignalCallback (signalling : adapter.Signalling)
    (posted : 0 < adapter.postedTasks) :
    ({ adapter with postedTasks := adapter.postedTasks - 1 }).handleSignalCallback.1.Signalling := by
  obtain ⟨_, same⟩ :=
    ({ adapter with postedTasks := adapter.postedTasks - 1 }).handleSignalCallback_eq
  rw [same]
  have none : adapter.postedTasks - 1 = 0 := by
    have tasks := signalling.posted
    split at tasks <;> omega
  refine ⟨signalling.marks, none, fun running => ?_⟩
  have signals := signalling.signals running
  refine ⟨signals.flushing, signals.below, signals.above, ?_⟩
  simp [none]

end Signalling

end Adapter

def FlushedQuietly (session : Session) (event : Event) : Prop :=
  event = .flush → session.adapter.faulted = false → session.adapter.busy = false →
    session.adapter.signalled = false

theorem step_signalling (session : Session) (event : Event) (next : Session)
    (signalling : session.adapter.Signalling) (quiet : FlushedQuietly session event)
    (taken : session.step event = some next) : next.adapter.Signalling := by
  cases event with
  | create size noWrap =>
    have created := signalling.createMediaPacket size noWrap {}
    simp only [Session.step] at taken
    split at taken
    next =>
      obtain rfl := Option.some.inj taken
      exact created
    next =>
      obtain rfl := Option.some.inj taken
      exact created
  | send cbk =>
    cases held : session.created with
    | nil => simp [Session.step, held] at taken
    | cons packet rest =>
      simp only [Session.step, held, Option.some.injEq] at taken
      subst taken
      exact signalling.sendMediaPacket packet cbk
  | cancel =>
    cases last : session.created.getLast? with
    | none => simp [Session.step, last] at taken
    | some packet =>
      simp only [Session.step, last, Option.some.injEq] at taken
      subst taken
      exact signalling.cancelMediaPacket packet
  | flush =>
    obtain rfl := Option.some.inj taken
    exact signalling.flush fun running idle => quiet rfl (by simpa using running) idle
  | answer result =>
    simp only [Session.step] at taken
    split at taken
    next seqNum media rest bound outstanding =>
      obtain rfl := Option.some.inj taken
      exact signalling.handleSendPacket seqNum result
    next => simp at taken
  | acknowledgeFlush =>
    simp only [Session.step, Option.ite_none_right_eq_some, Option.map_eq_some_iff] at taken
    obtain ⟨-, adapter, handled, rfl⟩ := taken
    exact signalling.handleFlush handled
  | setWatermarks hiWaterMark loWaterMark =>
    obtain rfl := Option.some.inj taken
    exact signalling.setWatermarks hiWaterMark loWaterMark
  | setSignalCallback cbk =>
    obtain rfl := Option.some.inj taken
    exact signalling.setSignalCallback cbk
  | signalTask =>
    simp only [Session.step, Option.ite_none_right_eq_some, Option.some.injEq] at taken
    obtain ⟨posted, rfl⟩ := taken
    exact signalling.handleSignalCallback posted

def SignalsAfter (session : Session) (event : Event) : Prop :=
  ∀ next, session.step event = some next → next.adapter.internalState = .ok →
    next.adapter.Signals

theorem signalsAfter_iff (session : Session) (event : Event)
    (signalling : session.adapter.Signalling) :
    SignalsAfter session event ↔ FlushedQuietly session event := by
  constructor
  · rintro signals rfl live idle
    rcases session.adapter.flush_cases with ⟨-, silent⟩ | ⟨running, -, -, moved⟩
    · simp [Adapter.flush, live, idle] at silent
    · have after := signals _ rfl
      simp only [moved] at after
      exact (after running).flushing rfl
  · intro quiet next taken
    exact (step_signalling session event next signalling quiet taken).signals

theorem start_signalling (bufferSize rd wr flushGeneration seqNumGen : Nat) :
    (Session.start bufferSize rd wr flushGeneration seqNumGen).adapter.Signalling := by
  refine ⟨Nat.le_refl _, rfl, fun _ => ⟨?_, ?_, ?_, ?_⟩⟩ <;> simp [Session.start]

-- The signalled state is right in every state of a run exactly when no flush is accepted while
-- the adapter is signalled.
theorem signals_iff_quiet (bufferSize rd wr flushGeneration seqNumGen : Nat)
    (events : List Event) :
    Meets Session.step SignalsAfter (.start bufferSize rd wr flushGeneration seqNumGen) events ↔
      Meets Session.step FlushedQuietly (.start bufferSize rd wr flushGeneration seqNumGen)
        events :=
  meets_congr Session.step SignalsAfter FlushedQuietly
    (fun session => session.adapter.Signalling) signalsAfter_iff step_signalling _ events
    (start_signalling bufferSize rd wr flushGeneration seqNumGen)

theorem flush_stays_signalled :
    ∃ session, run Session.step (.start 8 0 0 0 0) [.setWatermarks 4 1, .flush] = some session ∧
      session.adapter.internalState = .ok ∧ session.adapter.flushInProgress = true ∧
      session.adapter.signalled = true ∧ ¬ session.adapter.Signals := by
  refine ⟨_, rfl, rfl, rfl, rfl, ?_⟩
  intro signals
  cases signals.flushing rfl

end MojoMedia.CircularBuffer
