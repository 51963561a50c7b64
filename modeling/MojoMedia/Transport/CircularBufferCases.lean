import MojoMedia.Transport.CircularBufferInvariant

set_option autoImplicit false

namespace MojoMedia.CircularBuffer.Adapter

def pointers (adapter : Adapter) : Nat × Nat × Nat × List PacketState :=
  (adapter.bufferSize, adapter.rd, adapter.wr, adapter.inFlightQueue)

@[simp] theorem pointers_updateSignalled (adapter : Adapter) :
    adapter.updateSignalled.pointers = adapter.pointers := by
  obtain ⟨_, _, _, same⟩ := adapter.updateSignalled_eq
  rw [same]
  rfl

variable (self : Adapter)

theorem fault_running (reason : MediaResult) (running : self.internalState = .ok) :
    self.fault reason = self.cleanup.updateSignalled := by
  rw [fault, if_pos running]
  rfl

theorem fault_faulted (reason : MediaResult) (faulty : self.internalState ≠ .ok) :
    self.fault reason = self.updateSignalled := by
  rw [fault, if_neg faulty]

theorem fault_faulted_after (reason : MediaResult) : (self.fault reason).faulted = true := by
  by_cases running : self.internalState = .ok
  · obtain ⟨_, _, _, same⟩ := self.cleanup.updateSignalled_eq
    rw [self.fault_running _ running, same]
    rfl
  · obtain ⟨_, _, _, same⟩ := self.updateSignalled_eq
    rw [self.fault_faulted _ running, same]
    simpa [faulted] using running

def Outdated (packet : MappedPacket) : Prop :=
  packet.packet = none ∨ self.internalState ≠ .ok ∨
    packet.flushGeneration ≠ self.flushGeneration

theorem sendMediaPacket_cases (packet : MappedPacket) (cbk : Option Nat) :
    ((self.sendMediaPacket packet cbk).messages = [] ∧
      (self.Outdated packet ∧ (self.sendMediaPacket packet cbk).adapter = self ∨
        self.pipeBound = false ∧
          (self.sendMediaPacket packet cbk).adapter = self.fault .connectionLost)) ∨
    ∃ media, packet.packet = some media ∧ self.pipeBound = true ∧ self.internalState = .ok ∧
      packet.flushGeneration = self.flushGeneration ∧
      self.sendMediaPacket packet cbk =
        { result := .ok
          packet := packet.reset
          adapter :=
            { self with
              seqNumGen := MachineInt.u32 (self.seqNumGen + 1)
              inFlightQueue := self.inFlightQueue ++ [⟨if regionsEnd media = self.bufferSize
                then 0 else regionsEnd media, self.seqNumGen, cbk⟩] }
          messages := [.sendPacket self.seqNumGen media] } := by
  unfold sendMediaPacket
  cases held : packet.packet with
  | none => exact .inl ⟨rfl, .inl ⟨.inl held, rfl⟩⟩
  | some media =>
    by_cases bound : self.pipeBound = true
    · simp only [if_pos bound]
      split
      next stale =>
        simp only [faulted, Bool.or_eq_true, bne_iff_ne] at stale
        exact .inl ⟨rfl, .inl ⟨.inr stale, rfl⟩⟩
      next current =>
        simp only [faulted, Bool.or_eq_true, bne_iff_ne, not_or, ne_eq, not_not] at current
        exact .inr ⟨media, rfl, bound, current.1, current.2, rfl⟩
    · have faulty := self.fault_faulted_after .connectionLost
      left
      simp only [if_neg bound, faulty, Bool.true_or, if_true, true_and]
      exact .inr (by simpa using bound)

theorem cancelMediaPacket_cases (packet : MappedPacket) :
    (self.Outdated packet ∧ (self.cancelMediaPacket packet).adapter = self) ∨
    self.internalState = .ok ∧ packet.flushGeneration = self.flushGeneration ∧
      (self.cancelMediaPacket packet).adapter =
        ({ self with wr := packet.cancelWr }).updateSignalled := by
  unfold cancelMediaPacket
  cases held : packet.packet with
  | none => exact .inl ⟨.inl held, rfl⟩
  | some media =>
    simp only
    split
    next stale =>
      simp only [faulted, Bool.or_eq_true, bne_iff_ne] at stale
      exact .inl ⟨.inr stale, rfl⟩
    next current =>
      simp only [faulted, Bool.or_eq_true, bne_iff_ne, not_or, ne_eq, not_not] at current
      exact .inr ⟨current.1, current.2, rfl⟩

theorem flush_cases :
    (self.flush.adapter = self ∧ self.flush.messages = []) ∨
    (self.internalState = .ok ∧ self.flushInProgress = false ∧
      self.flush.messages = [.flush] ∧
      self.flush.adapter =
        { self with
          inFlightQueue := []
          rd := 0
          wr := 0
          flushInProgress := true
          flushGeneration := MachineInt.u32 (self.flushGeneration + 1) }) := by
  unfold flush
  split
  next => exact .inl ⟨rfl, rfl⟩
  next running =>
    split
    next => exact .inl ⟨rfl, rfl⟩
    next idle =>
      simp only [faulted, bne_iff_ne, ne_eq, not_not] at running
      exact .inr ⟨running, by simpa [busy] using idle, rfl, rfl⟩

theorem handleSendPacket_cases (seqNum : Nat) (result : SendResult) :
    (self.handleSendPacket seqNum result).1 = self.fault .unknownError ∨
    ∃ front rest, self.inFlightQueue = front :: rest ∧ front.seqNum = seqNum ∧
      ((self.flushInProgress = true ∧
          (self.handleSendPacket seqNum result).1 = { self with inFlightQueue := rest }) ∨
        (self.flushInProgress = false ∧ self.validRd front.postConsumeRd = true ∧
          (self.handleSendPacket seqNum result).1 =
            ({ self with inFlightQueue := rest, rd := front.postConsumeRd }).updateSignalled) ∨
        (self.flushInProgress = false ∧ self.validRd front.postConsumeRd = false ∧
          (self.handleSendPacket seqNum result).1 =
            ({ self with inFlightQueue := rest }).fault .unknownError)) := by
  unfold handleSendPacket
  cases queue : self.inFlightQueue with
  | nil => exact .inl rfl
  | cons front rest =>
    simp only
    split
    next => exact .inl rfl
    next answered =>
      refine .inr ⟨front, rest, rfl, not_not.mp answered, ?_⟩
      have same : ({ self with inFlightQueue := rest }).validRd front.postConsumeRd =
          self.validRd front.postConsumeRd := rfl
      by_cases flushing : self.flushInProgress = true
      · exact .inl ⟨flushing, if_pos flushing⟩
      · have idle : self.flushInProgress = false := by simpa using flushing
        simp only [if_neg flushing, same]
        by_cases valid : self.validRd front.postConsumeRd = true
        · exact .inr (.inl ⟨idle, valid, if_pos valid⟩)
        · exact .inr (.inr ⟨idle, by simpa using valid, if_neg valid⟩)

theorem handleFlush_cases {next : Adapter} (handled : self.handleFlush = some next) :
    (self.internalState ≠ .ok ∧ next = self) ∨
    (self.internalState = .ok ∧ self.flushInProgress = false ∧
      next = self.fault .protocolError) ∨
    ∃ front rest, self.internalState = .ok ∧ self.flushInProgress = true ∧
      self.inFlightQueue = front :: rest ∧
      next =
        ({ self with
          rd := 0
          wr := 0
          inFlightQueue := rest
          flushInProgress := false }).updateSignalled := by
  unfold handleFlush at handled
  by_cases running : self.internalState = .ok
  · have live : self.faulted = false := by simp [faulted, running]
    simp only [live, Bool.false_eq_true, if_false] at handled
    by_cases flushing : self.flushInProgress = true
    · simp only [flushing, Bool.not_true, Bool.false_eq_true, if_false] at handled
      cases queue : self.inFlightQueue with
      | nil => simp [queue] at handled
      | cons front rest =>
        simp only [queue, Option.some.injEq] at handled
        exact .inr (.inr ⟨front, rest, running, flushing, rfl, handled.symm⟩)
    · have idle : self.flushInProgress = false := by simpa using flushing
      simp only [idle, Bool.not_false, if_true, Option.some.injEq] at handled
      exact .inr (.inl ⟨running, idle, handled.symm⟩)
  · have faulty : self.faulted = true := by simpa [faulted] using running
    rw [if_pos faulty] at handled
    exact .inl ⟨running, (Option.some.inj handled).symm⟩

theorem handleFlush_eq_none (running : self.internalState = .ok)
    (flushing : self.flushInProgress = true) (empty : self.inFlightQueue = []) :
    self.handleFlush = none := by
  simp [handleFlush, faulted, running, flushing, empty]

theorem setWatermarks_cases (hiWaterMark loWaterMark : Nat) :
    self.setWatermarks hiWaterMark loWaterMark = self ∨
    (loWaterMark ≤ hiWaterMark ∧ self.setWatermarks hiWaterMark loWaterMark =
      ({ self with hiWaterMark, loWaterMark }).updateSignalled) := by
  unfold setWatermarks
  split
  next => exact .inl rfl
  next order => exact .inr ⟨Nat.le_of_not_lt order, rfl⟩

theorem setSignalCallback_cases (cbk : Option Nat) :
    self.setSignalCallback cbk = { self with signalCbk := cbk } ∨
    self.setSignalCallback cbk = ({ self with signalCbk := cbk }).updateSignalled := by
  unfold setSignalCallback
  cases cbk with
  | none => exact .inl rfl
  | some cbk => exact .inr rfl

theorem handleSignalCallback_eq : ∃ faultCbkMade,
    self.handleSignalCallback.1 = { self with cbkScheduled := false, faultCbkMade } := by
  unfold handleSignalCallback
  simp only
  split
  · exact ⟨self.faultCbkMade, rfl⟩
  split
  · exact ⟨self.faultCbkMade, rfl⟩
  · exact ⟨_, rfl⟩

def SignalsOnly (before after : Adapter) : Prop :=
  ∃ signalCbk faultCbkMade cbkScheduled hiWaterMark loWaterMark signalled postedTasks,
    after = { before with signalCbk, faultCbkMade, cbkScheduled, hiWaterMark, loWaterMark,
                          signalled, postedTasks }

theorem signalsOnly_setWatermarks (hiWaterMark loWaterMark : Nat) :
    self.SignalsOnly (self.setWatermarks hiWaterMark loWaterMark) := by
  rcases self.setWatermarks_cases hiWaterMark loWaterMark with same | ⟨-, moved⟩
  · rw [same]
    exact ⟨_, _, _, _, _, _, _, rfl⟩
  · obtain ⟨_, _, _, same⟩ := ({ self with hiWaterMark, loWaterMark }).updateSignalled_eq
    rw [moved, same]
    exact ⟨_, _, _, _, _, _, _, rfl⟩

theorem signalsOnly_setSignalCallback (cbk : Option Nat) :
    self.SignalsOnly (self.setSignalCallback cbk) := by
  rcases self.setSignalCallback_cases cbk with same | moved
  · rw [same]
    exact ⟨_, _, _, _, _, _, _, rfl⟩
  · obtain ⟨_, _, _, same⟩ := ({ self with signalCbk := cbk }).updateSignalled_eq
    rw [moved, same]
    exact ⟨_, _, _, _, _, _, _, rfl⟩

theorem signalsOnly_handleSignalCallback (postedTasks : Nat) :
    self.SignalsOnly { self with postedTasks }.handleSignalCallback.1 := by
  obtain ⟨_, same⟩ := { self with postedTasks }.handleSignalCallback_eq
  rw [same]
  exact ⟨_, _, _, _, _, _, _, rfl⟩

variable {self} {after : Adapter}

theorem SignalsOnly.core (only : self.SignalsOnly after) : after.core = self.core := by
  obtain ⟨_, _, _, _, _, _, _, rfl⟩ := only
  rfl

theorem SignalsOnly.pointers (only : self.SignalsOnly after) : after.pointers = self.pointers := by
  obtain ⟨_, _, _, _, _, _, _, rfl⟩ := only
  rfl

end MojoMedia.CircularBuffer.Adapter

namespace MojoMedia.CircularBuffer

def Event.signals : Event → Bool
  | .setWatermarks _ _ | .setSignalCallback _ | .signalTask => true
  | _ => false

theorem Session.step_signals {session next : Session} {event : Event}
    (signals : event.signals = true) (taken : session.step event = some next) :
    ∃ adapter, next = { session with adapter } ∧ session.adapter.SignalsOnly adapter := by
  cases event with
  | setWatermarks hiWaterMark loWaterMark =>
    exact ⟨_, (Option.some.inj taken).symm, session.adapter.signalsOnly_setWatermarks _ _⟩
  | setSignalCallback cbk =>
    exact ⟨_, (Option.some.inj taken).symm, session.adapter.signalsOnly_setSignalCallback _⟩
  | signalTask =>
    simp only [Session.step, Option.ite_none_right_eq_some, Option.some.injEq] at taken
    exact ⟨_, taken.2.symm, session.adapter.signalsOnly_handleSignalCallback _⟩
  | create | send | cancel | flush | answer | acknowledgeFlush => cases signals

end MojoMedia.CircularBuffer
