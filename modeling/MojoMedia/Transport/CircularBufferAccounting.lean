import MojoMedia.Transport.CircularBufferCases
import MojoMedia.Transport.CircularBufferRuns

set_option autoImplicit false

namespace MojoMedia.CircularBuffer

open MachineInt Ring Runs

def Adapter.charge (adapter : Adapter) (size : Nat) (noWrap : Bool) : Nat :=
  (if adapter.pads size noWrap then adapter.bufferSize - adapter.wr else 0) + size

-- `charges` are those of the packets in flight and of the packets created, oldest first.
structure Ledger where
  session : Session
  charges : List Nat := []
  deriving Repr, DecidableEq

namespace Ledger

def charge (ledger : Ledger) : Event → List Nat
  | .create size noWrap =>
    if (ledger.session.adapter.createMediaPacket size noWrap {}).result = .ok then
      ledger.charges ++ [ledger.session.adapter.charge size noWrap]
    else ledger.charges
  | .cancel => ledger.charges.dropLast
  | .answer _ => ledger.charges.tail
  | _ => ledger.charges

def step (ledger : Ledger) (event : Event) : Option Ledger :=
  (ledger.session.step event).map fun session => { session, charges := ledger.charge event }

def start (bufferSize rd wr flushGeneration seqNumGen : Nat) : Ledger :=
  { session := .start bufferSize rd wr flushGeneration seqNumGen }

end Ledger

def MappedPacket.mark (bufferSize : Nat) (mapped : MappedPacket) : Nat :=
  match mapped.packet with
  | none => 0
  | some media =>
    if Adapter.regionsEnd media = bufferSize then 0 else Adapter.regionsEnd media

namespace Session

def marks (session : Session) : List Nat :=
  session.adapter.inFlightQueue.map PacketState.postConsumeRd ++
    session.created.map (MappedPacket.mark session.adapter.bufferSize)

def spans (session : Session) : List Nat :=
  gaps session.adapter.bufferSize session.adapter.rd session.marks

theorem spans_congr {session next : Session}
    (pointers : next.adapter.pointers = session.adapter.pointers)
    (created : next.created = session.created) : next.spans = session.spans := by
  simp only [Adapter.pointers, Prod.mk.injEq] at pointers
  obtain ⟨size, rd, -, queue⟩ := pointers
  simp only [spans, marks, size, rd, queue, created]

theorem spans_concat (adapter : Adapter) (created : List MappedPacket) (packet : MappedPacket)
    (outstanding : List (Nat × MediaPacket)) (flushes : Nat) :
    spans ⟨adapter, created ++ [packet], outstanding, flushes⟩ =
      spans ⟨adapter, created, outstanding, flushes⟩ ++
        [distance adapter.bufferSize
          ((marks ⟨adapter, created, outstanding, flushes⟩).getLastD adapter.rd)
          (packet.mark adapter.bufferSize)] := by
  simp only [spans, marks, List.map_append, ← List.append_assoc]
  rw [gaps_append]
  rfl

theorem spans_write (adapter : Adapter) (wr : Nat) (created : List MappedPacket)
    (outstanding : List (Nat × MediaPacket)) (flushes : Nat) :
    spans ⟨({ adapter with wr }).updateSignalled, created, outstanding, flushes⟩ =
      spans ⟨adapter, created, outstanding, flushes⟩ := by
  obtain ⟨_, _, _, same⟩ := ({ adapter with wr }).updateSignalled_eq
  rw [same]
  rfl

end Session

section Laid

variable {session : Session} {sent : List (PacketState × MediaPacket)}
  {fresh : List MappedPacket} {readAt rdAt sentAt wrAt : Nat}

theorem Laid.positions {stale : List MappedPacket}
    (laid : Laid 0 session sent stale fresh readAt rdAt sentAt wrAt) :
    readAt = rdAt ∧ rdAt ≤ sentAt ∧ sentAt ≤ wrAt :=
  ⟨Nat.le_antisymm laid.behind laid.near, chain_le laid.sentChain, chain_le laid.freshChain⟩

theorem mark_of_placed {bufferSize flushGeneration : Nat} (large : bufferSize ≤ 2 ^ 63)
    (mapped : MappedPacket) (before after : Nat)
    (placed : PlacedCreated bufferSize flushGeneration mapped before after) :
    mapped.mark bufferSize = after % bufferSize := by
  obtain ⟨-, -, media, held, placed⟩ := placed
  rw [MappedPacket.mark, held]
  exact placed.postConsumeRd large

theorem Laid.spans (laid : Laid 0 session sent [] fresh readAt rdAt sentAt wrAt) :
    session.spans.sum = wrAt - readAt ∧
      session.marks.getLastD session.adapter.rd = session.adapter.wr := by
  obtain ⟨rfl, beforeSent, beforeWr⟩ := laid.positions
  have window := laid.window
  obtain ⟨sentSum, sentMark⟩ := gaps_of_chain session.adapter.bufferSize
    (fun item : PacketState × MediaPacket => item.1.postConsumeRd)
    (fun item before after placed => placed.1) laid.sentChain (by omega)
  obtain ⟨freshSum, freshMark⟩ := gaps_of_chain session.adapter.bufferSize
    (MappedPacket.mark session.adapter.bufferSize) (mark_of_placed laid.large) laid.freshChain
    (by omega)
  have queue : session.adapter.inFlightQueue.map PacketState.postConsumeRd =
      sent.map fun item => item.1.postConsumeRd := by
    rw [laid.queue, List.map_map]
    rfl
  have created : session.created = fresh := laid.created
  rw [Session.spans, Session.marks, queue, created, laid.rd, laid.wr, gaps_append,
    List.sum_append, sentMark, sentSum, freshSum, getLastD_append, sentMark, freshMark]
  exact ⟨by omega, rfl⟩

theorem Laid.charge (laid : Laid 0 session sent [] fresh readAt rdAt sentAt wrAt) (size start : Nat)
    (noWrap : Bool) (order : wrAt ≤ start)
    (window : start + size < readAt + session.adapter.bufferSize)
    (startAt : session.adapter.allocStart size noWrap = start % session.adapter.bufferSize) :
    session.adapter.charge size noWrap = start + size - wrAt := by
  obtain ⟨rfl, beforeSent, beforeWr⟩ := laid.positions
  have gap := distance_eq session.adapter.bufferSize wrAt start laid.positive order (by omega)
  rw [← laid.wr, ← startAt] at gap
  rw [Adapter.charge]
  unfold Adapter.allocStart at gap
  split
  next padded =>
    have ahead : session.adapter.rd < session.adapter.wr := by
      simp only [Adapter.pads, Bool.and_eq_true, decide_eq_true_eq] at padded
      exact padded.1.2
    rw [if_pos padded, distance, if_neg (by omega)] at gap
    omega
  next unpadded =>
    rw [if_neg unpadded, distance, if_pos (Nat.le_refl _)] at gap
    omega

end Laid

structure Booked (ledger : Ledger) : Prop where
  sound : Sound 0 ledger.session
  current : Current ledger.session
  charges : ledger.charges = ledger.session.spans

section Steps

variable {ledger : Ledger} {next : Session}

theorem create_spans (booked : Booked ledger) (size : Nat) (noWrap : Bool)
    (fits : Fits ledger.session (.create size noWrap))
    (taken : ledger.session.step (.create size noWrap) = some next) :
    ledger.charge (.create size noWrap) = next.spans := by
  obtain ⟨sent, stale, fresh, readAt, rdAt, sentAt, wrAt, laid⟩ := booked.sound
  obtain rfl := laid.no_stale booked.current
  rcases ledger.session.adapter.createMediaPacket_cases size noWrap {} with
    ⟨failed, same⟩ | ⟨-, -, -, data, length, outcome⟩
  · simp only [Session.step, if_neg failed, same, Option.some.injEq] at taken
    subst taken
    simp only [Ledger.charge, if_neg failed, booked.charges]
  have room := laid.room size noWrap {} fits (by rw [outcome])
  obtain ⟨start, order, window, startAt⟩ := laid.allocated size noWrap room
  obtain ⟨-, lastMark⟩ := laid.spans
  obtain ⟨rfl, beforeSent, beforeWr⟩ := laid.positions
  have charged := laid.charge size start noWrap order window startAt
  have unwrapped : u64 (start % ledger.session.adapter.bufferSize + size) =
      start % ledger.session.adapter.bufferSize + size := by
    have inside := Nat.mod_lt start laid.positive
    have large := laid.large
    exact u64_of_lt _ (by omega)
  simp only [Session.step, outcome, if_true, Option.some.injEq, startAt, unwrapped] at taken
  subst taken
  simp only [Ledger.charge, outcome, if_true, booked.charges, charged]
  rw [Session.spans_write, Session.spans_concat]
  have placed : Placed ledger.session.adapter.bufferSize
      (Adapter.allocRegions ledger.session.adapter.bufferSize
        (start % ledger.session.adapter.bufferSize)
        (start % ledger.session.adapter.bufferSize + size) size) wrAt (start + size) :=
    ⟨start, size, order, rfl, by omega, rfl⟩
  simp only [MappedPacket.mark, placed.postConsumeRd laid.large]
  rw [lastMark, laid.wr, distance_eq _ _ _ laid.positive (by omega) (by omega)]

theorem send_spans (booked : Booked ledger) (cbk : Option Nat)
    (taken : ledger.session.step (.send cbk) = some next) : next.spans = ledger.session.spans := by
  obtain ⟨sent, stale, fresh, readAt, rdAt, sentAt, wrAt, laid⟩ := booked.sound
  obtain rfl := laid.no_stale booked.current
  have created : ledger.session.created = fresh := laid.created
  cases fresh with
  | nil => simp [Session.step, created] at taken
  | cons packet rest =>
    obtain ⟨middle, -, ⟨current, -, media, held, -⟩, -⟩ := laid.freshChain
    simp only [Session.step, created, Option.some.injEq] at taken
    subst taken
    rcases ledger.session.adapter.sendMediaPacket_cases packet cbk with
      ⟨-, ⟨outdated, -⟩ | ⟨unbound, -⟩⟩ | ⟨other, same, -, -, -, outcome⟩
    · rcases outdated with none | faulty | flushed
      · cases held.symm.trans none
      · exact absurd laid.running faulty
      · exact absurd current flushed
    · cases laid.bound.symm.trans unbound
    · obtain rfl : media = other := Option.some.inj (held.symm.trans same)
      rw [outcome]
      simp only [Session.spans, Session.marks, created, List.map_append, List.map_cons,
        List.map_nil, List.append_assoc, List.singleton_append]
      rw [MappedPacket.mark, held]

theorem cancel_spans (booked : Booked ledger)
    (taken : ledger.session.step .cancel = some next) :
    next.spans = ledger.session.spans.dropLast := by
  obtain ⟨sent, stale, fresh, readAt, rdAt, sentAt, wrAt, laid⟩ := booked.sound
  obtain rfl := laid.no_stale booked.current
  have created : ledger.session.created = fresh := laid.created
  rcases List.eq_nil_or_concat fresh with rfl | ⟨front, packet, rfl⟩
  · simp [Session.step, created] at taken
  rw [List.concat_eq_append] at laid created
  obtain ⟨middle, -, -, current, -, media, held, -⟩ := (chain_snoc _ _ _ _).mp laid.freshChain
  simp only [Session.step, created, List.getLast?_concat, List.dropLast_concat,
    Option.some.injEq] at taken
  subst taken
  rcases ledger.session.adapter.cancelMediaPacket_cases packet with ⟨outdated, -⟩ | ⟨-, -, moved⟩
  · rcases outdated with none | faulty | flushed
    · cases held.symm.trans none
    · exact absurd laid.running faulty
    · exact absurd current flushed
  · have whole : ledger.session = ⟨ledger.session.adapter, front ++ [packet],
        ledger.session.outstanding, ledger.session.flushes⟩ := by rw [← created]
    rw [moved, Session.spans_write]
    conv_rhs => rw [whole, Session.spans_concat, List.dropLast_concat]

theorem answer_spans (booked : Booked ledger) (result : SendResult) (sound : Sound 0 next)
    (taken : ledger.session.step (.answer result) = some next) :
    next.spans = ledger.session.spans.tail := by
  obtain ⟨sent, stale, fresh, readAt, rdAt, sentAt, wrAt, laid⟩ := booked.sound
  obtain ⟨_, _, _, _, _, _, _, after⟩ := sound
  simp only [Session.step] at taken
  split at taken
  next seqNum media rest bound outstanding =>
    simp only [Option.some.injEq] at taken
    subst taken
    -- A sound session is not faulted, which leaves the branch that moves the read pointer.
    have running : (ledger.session.adapter.handleSendPacket seqNum result).1.faulted = false := by
      simpa using after.running
    rcases ledger.session.adapter.handleSendPacket_cases seqNum result with
      failed | ⟨front, others, queue, -, ⟨flushing, -⟩ | ⟨-, -, moved⟩ | ⟨-, -, failed⟩⟩
    · rw [failed, Adapter.fault_faulted_after] at running
      cases running
    · have unsent := (laid.flushing flushing).1
      rw [laid.queue, unsent] at queue
      cases queue
    · obtain ⟨_, _, _, same⟩ := Adapter.updateSignalled_eq
        { ledger.session.adapter with inFlightQueue := others, rd := front.postConsumeRd }
      rw [moved, same]
      simp only [Session.spans, Session.marks, queue, List.map_cons, List.cons_append, gaps,
        List.tail_cons]
    · rw [failed, Adapter.fault_faulted_after] at running
      cases running
  next => simp at taken

theorem step_booked (ledger : Ledger) (event : Event) (next : Ledger) (booked : Booked ledger)
    (fits : Fits ledger.session event) (taken : ledger.step event = some next) :
    Booked next := by
  obtain ⟨session, moved, rfl⟩ := Option.map_eq_some_iff.mp taken
  have sound := step_sound ledger.session event session booked.sound
    (orderly_of_fits ledger.session event fits) moved
  have current := (current_step ledger.session event session booked.current fits moved).1
  refine ⟨sound, current, ?_⟩
  cases event with
  | create size noWrap => exact create_spans booked size noWrap fits moved
  | send cbk => exact booked.charges.trans (send_spans booked cbk moved).symm
  | cancel =>
    rw [cancel_spans booked moved, ← booked.charges]
    rfl
  | flush => exact fits.elim
  | answer result =>
    rw [answer_spans booked result sound moved, ← booked.charges]
    rfl
  | acknowledgeFlush => exact fits.elim
  | setWatermarks | setSignalCallback | signalTask =>
    obtain ⟨adapter, rfl, only⟩ := Session.step_signals rfl moved
    have same : ({ ledger.session with adapter }).spans = ledger.session.spans :=
      Session.spans_congr only.pointers rfl
    exact booked.charges.trans same.symm

end Steps

theorem Booked.pending {ledger : Ledger} (booked : Booked ledger) :
    ledger.session.adapter.getPending = ledger.charges.sum ∧
      (ledger.session.adapter.rd = ledger.session.adapter.wr → ledger.charges.sum = 0) ∧
      ledger.session.adapter.getPending ≤ ledger.session.adapter.getBufferSize := by
  obtain ⟨sent, stale, fresh, readAt, rdAt, sentAt, wrAt, laid⟩ := booked.sound
  obtain rfl := laid.no_stale booked.current
  obtain ⟨rfl, beforeSent, beforeWr⟩ := laid.positions
  have window := laid.window
  have positive := laid.positive
  have large := laid.large
  have sum : ledger.charges.sum = wrAt - readAt := by rw [booked.charges, laid.spans.1]
  refine ⟨by rw [laid.pending, sum], fun empty => ?_, ?_⟩
  · have gap := distance_eq ledger.session.adapter.bufferSize readAt wrAt positive (by omega) window
    rw [← laid.rd, ← laid.wr, empty, distance, if_pos (Nat.le_refl _)] at gap
    omega
  · have one : subU64 ledger.session.adapter.bufferSize 1 =
        ledger.session.adapter.bufferSize - 1 := subU64_of_le _ _ (by omega) positive
    rw [laid.pending, Adapter.getBufferSize, laid.mapped, one]
    simp only [Bool.not_true, Bool.false_eq_true, if_false]
    omega

theorem pending_accounted (bufferSize rd wr flushGeneration seqNumGen : Nat) (same : rd = wr)
    (inside : wr < bufferSize) (large : bufferSize ≤ 2 ^ 63) (events : List Event)
    (ledger : Ledger)
    (fits : Meets Ledger.step (fun ledger event => Fits ledger.session event)
      (.start bufferSize rd wr flushGeneration seqNumGen) events)
    (reached : run Ledger.step (.start bufferSize rd wr flushGeneration seqNumGen) events =
      some ledger) :
    ledger.session.adapter.getPending = ledger.charges.sum ∧
      (ledger.session.adapter.rd = ledger.session.adapter.wr → ledger.charges.sum = 0) ∧
      ledger.session.adapter.getPending ≤ ledger.session.adapter.getBufferSize := by
  subst same
  have booked : Booked ledger := by
    refine invariant_of_step Ledger.step (fun ledger event => Fits ledger.session event) Booked
      step_booked _ ledger events ?_ fits reached
    have sound := start_sound bufferSize rd rd flushGeneration seqNumGen inside inside large
    rw [distance, if_pos (Nat.le_refl _), Nat.sub_self] at sound
    refine ⟨sound, ?_, rfl⟩
    intro packet member
    simp [Ledger.start, Session.start] at member
  exact booked.pending

theorem pending_accounted_padded :
    ∃ ledger, run Ledger.step (.start 8 3 3 0 0) [.create 2 false, .send none, .answer .consumed,
        .create 2 false, .create 3 true] = some ledger ∧ ledger.charges = [2, 4] ∧
      ledger.session.adapter.getPending = 6 :=
  ⟨_, rfl, rfl, (pending_accounted 8 3 3 0 0 rfl (by decide) (by decide) [.create 2 false,
    .send none, .answer .consumed, .create 2 false, .create 3 true] _ (by decide) rfl).1⟩

-- Ten bytes are charged in a buffer of eight, and two of them count as pending. Before any
-- packet, two bytes are pending where the pointers are two apart.
theorem pending_forgotten :
    (∃ ledger, run Ledger.step (.start 8 0 0 0 0) [.create 5 false, .create 5 false] =
        some ledger ∧
      ledger.charges = [5, 5] ∧ ledger.session.adapter.getPending = 2 ∧
      ledger.session.adapter.getPending ≠ ledger.charges.sum) ∧
    (Ledger.start 8 0 2 0 0).session.adapter.getPending = 2 ∧
      (Ledger.start 8 0 2 0 0).charges = [] :=
  ⟨⟨_, rfl, rfl, rfl, by decide⟩, rfl, rfl⟩

end MojoMedia.CircularBuffer
