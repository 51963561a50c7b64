import MojoMedia.Transport.CircularBufferCases
import MojoMedia.Transport.CircularBufferSafety

set_option autoImplicit false

namespace MojoMedia.CircularBuffer

open MachineInt Runs

namespace Adapter

-- What the debug assertions say of the pointers, where they lie in the buffer at first, and
-- what a machine word says of them in any case.
structure InBuffer (bufferSize limit : Nat) (adapter : Adapter) : Prop where
  size : adapter.bufferSize = bufferSize
  positive : 0 < bufferSize
  small : bufferSize < 2 ^ 64
  limited : limit = bufferSize ∨ limit = 2 ^ 64
  rd : adapter.rd < limit
  wr : adapter.wr < limit
  queue : ∀ state ∈ adapter.inFlightQueue, state.postConsumeRd < limit

section InBuffer

variable {bufferSize limit : Nat} {adapter other : Adapter}

theorem InBuffer.congr (inside : InBuffer bufferSize limit adapter)
    (same : other.pointers = adapter.pointers) : InBuffer bufferSize limit other := by
  simp only [pointers, Prod.mk.injEq] at same
  obtain ⟨sameSize, sameRd, sameWr, sameQueue⟩ := same
  exact
    { inside with
      size := sameSize ▸ inside.size
      rd := sameRd ▸ inside.rd
      wr := sameWr ▸ inside.wr
      queue := sameQueue ▸ inside.queue }

theorem InBuffer.updateSignalled (inside : InBuffer bufferSize limit adapter) :
    InBuffer bufferSize limit adapter.updateSignalled :=
  inside.congr adapter.pointers_updateSignalled

theorem InBuffer.fault (inside : InBuffer bufferSize limit adapter) (reason : MediaResult) :
    InBuffer bufferSize limit (adapter.fault reason) := by
  have positive := Nat.zero_lt_of_lt inside.rd
  by_cases running : adapter.internalState = .ok
  · rw [adapter.fault_running reason running]
    apply InBuffer.updateSignalled
    exact { inside with rd := positive, wr := positive, queue := by simp [cleanup] }
  · rw [adapter.fault_faulted reason running]
    exact inside.updateSignalled

theorem InBuffer.rest (inside : InBuffer bufferSize limit adapter) (front : PacketState)
    (rest : List PacketState) (queue : adapter.inFlightQueue = front :: rest) :
    InBuffer bufferSize limit { adapter with inFlightQueue := rest } ∧
      front.postConsumeRd < limit := by
  have all := inside.queue
  rw [queue] at all
  exact ⟨{ inside with queue := fun state member => all state (by simp [member]) },
    all front (by simp)⟩

end InBuffer

theorem regionsEnd_le (bufferSize start size : Nat) (small : bufferSize < 2 ^ 64)
    (inside : start < bufferSize) (short : size < bufferSize) :
    regionsEnd (allocRegions bufferSize start (u64 (start + size)) size) ≤ bufferSize := by
  unfold allocRegions
  split
  next wraps =>
    have whole : start + size < 2 ^ 64 := by
      unfold u64 at wraps
      omega
    rw [u64_of_lt _ whole] at wraps
    have first : subU64 bufferSize start = bufferSize - start :=
      subU64_of_le _ _ small (Nat.le_of_lt inside)
    have second : subU64 size (bufferSize - start) = size - (bufferSize - start) :=
      subU64_of_le _ _ (by omega) (by omega)
    simp only [regionsEnd, List.head?_cons, first, second]
    rw [u64_of_lt _ (by omega)]
    omega
  next fits => exact Nat.le_of_not_lt fits

theorem regionsEnd_lt (media : MediaPacket) : regionsEnd media < 2 ^ 64 := by
  unfold regionsEnd u64
  split <;> omega

theorem allocStart_lt (adapter : Adapter) (size : Nat) (noWrap : Bool)
    (wrIn : adapter.wr < adapter.bufferSize) :
    adapter.allocStart size noWrap < adapter.bufferSize := by
  unfold allocStart
  split
  · exact Nat.zero_lt_of_lt wrIn
  · exact wrIn

end Adapter

def MappedPacket.InBuffer (bufferSize limit : Nat) (packet : MappedPacket) : Prop :=
  packet.cancelWr < limit ∧ ∀ media, packet.packet = some media →
    Adapter.regionsEnd media = bufferSize ∨ Adapter.regionsEnd media < limit

structure InBuffer (bufferSize limit : Nat) (session : Session) : Prop where
  adapter : session.adapter.InBuffer bufferSize limit
  created : ∀ packet ∈ session.created, packet.InBuffer bufferSize limit

section Steps

variable {bufferSize limit : Nat} {session next : Session}

theorem create_inBuffer (inside : InBuffer bufferSize limit session) (size : Nat) (noWrap : Bool)
    (taken : session.step (.create size noWrap) = some next) :
    InBuffer bufferSize limit next := by
  obtain ⟨adapterInside, created⟩ := inside
  rcases session.adapter.createMediaPacket_cases size noWrap {} with
    ⟨failed, same⟩ | ⟨-, -, short, data, length, outcome⟩
  · simp only [Session.step, if_neg failed, same, Option.some.injEq] at taken
    subst taken
    exact ⟨adapterInside, created⟩
  simp only [Session.step, outcome, if_true, Option.some.injEq] at taken
  subst taken
  obtain ⟨sized, positive, small, limited, rdIn, wrIn, queue⟩ := adapterInside
  rw [sized, subU64_of_le _ _ small positive] at short
  have moved := Nat.mod_lt (u64 (session.adapter.allocStart size noWrap + size)) positive
  rw [← sized] at moved
  constructor
  · apply Adapter.InBuffer.updateSignalled
    exact ⟨sized, positive, small, limited, rdIn, by simp only; omega, queue⟩
  · intro packet member
    rcases List.mem_append.mp member with old | new
    · exact created packet old
    · obtain rfl := List.mem_singleton.mp new
      refine ⟨wrIn, fun media held => ?_⟩
      obtain rfl := Option.some.inj held
      rw [sized]
      rcases limited with rfl | rfl
      · have start := session.adapter.allocStart_lt size noWrap (by rw [sized]; exact wrIn)
        rw [sized] at start
        exact (Adapter.regionsEnd_le _ _ size small start (by omega)).eq_or_lt
      · exact .inr (Adapter.regionsEnd_lt _)

theorem send_inBuffer (inside : InBuffer bufferSize limit session) (cbk : Option Nat)
    (taken : session.step (.send cbk) = some next) : InBuffer bufferSize limit next := by
  obtain ⟨adapterInside, created⟩ := inside
  cases held : session.created with
  | nil => simp [Session.step, held] at taken
  | cons packet rest =>
    simp only [Session.step, held, Option.some.injEq] at taken
    subst taken
    rw [held] at created
    refine ⟨?_, fun other member => created other (by simp [member])⟩
    rcases session.adapter.sendMediaPacket_cases packet cbk with
      ⟨-, ⟨-, same⟩ | ⟨-, failed⟩⟩ | ⟨media, filled, -, -, -, outcome⟩
    · rw [same]
      exact adapterInside
    · rw [failed]
      exact adapterInside.fault _
    · rw [outcome]
      refine { adapterInside with queue := fun state member => ?_ }
      rcases List.mem_append.mp member with old | new
      · exact adapterInside.queue state old
      · obtain rfl := List.mem_singleton.mp new
        have bound := (created packet (by simp)).2 media filled
        have positive := Nat.zero_lt_of_lt adapterInside.rd
        rw [adapterInside.size]
        simp only
        split <;> omega

theorem answer_inBuffer (inside : InBuffer bufferSize limit session) (result : SendResult)
    (taken : session.step (.answer result) = some next) : InBuffer bufferSize limit next := by
  obtain ⟨adapterInside, created⟩ := inside
  simp only [Session.step] at taken
  split at taken
  next seqNum media rest bound outstanding =>
    simp only [Option.some.injEq] at taken
    subst taken
    refine ⟨?_, created⟩
    rcases session.adapter.handleSendPacket_cases seqNum result with
      failed | ⟨front, others, queue, -, moved⟩
    · rw [failed]
      exact adapterInside.fault _
    · obtain ⟨restInside, consumed⟩ := adapterInside.rest front others queue
      rcases moved with ⟨-, moved⟩ | ⟨-, -, moved⟩ | ⟨-, -, moved⟩
      · rw [moved]
        exact restInside
      · rw [moved]
        apply Adapter.InBuffer.updateSignalled
        exact { restInside with rd := consumed }
      · rw [moved]
        exact restInside.fault _
  next => simp at taken

theorem acknowledgeFlush_inBuffer (inside : InBuffer bufferSize limit session)
    (taken : session.step .acknowledgeFlush = some next) : InBuffer bufferSize limit next := by
  obtain ⟨adapterInside, created⟩ := inside
  simp only [Session.step, Option.ite_none_right_eq_some, Option.map_eq_some_iff] at taken
  obtain ⟨-, adapter, handled, rfl⟩ := taken
  refine ⟨?_, created⟩
  have positive := Nat.zero_lt_of_lt adapterInside.rd
  rcases session.adapter.handleFlush_cases handled with
    ⟨-, rfl⟩ | ⟨-, -, rfl⟩ | ⟨front, rest, -, -, queue, rfl⟩
  · exact adapterInside
  · exact adapterInside.fault _
  · apply Adapter.InBuffer.updateSignalled
    have restInside := (adapterInside.rest front rest queue).1
    exact { restInside with rd := positive, wr := positive }

theorem step_inBuffer (session : Session) (event : Event)
    (next : Session) (inside : InBuffer bufferSize limit session)
    (taken : session.step event = some next) : InBuffer bufferSize limit next := by
  cases event with
  | create size noWrap => exact create_inBuffer inside size noWrap taken
  | send cbk => exact send_inBuffer inside cbk taken
  | cancel =>
    obtain ⟨adapterInside, created⟩ := inside
    cases last : session.created.getLast? with
    | none => simp [Session.step, last] at taken
    | some packet =>
      simp only [Session.step, last, Option.some.injEq] at taken
      subst taken
      refine ⟨?_, fun other member => created other (List.dropLast_subset _ member)⟩
      rcases session.adapter.cancelMediaPacket_cases packet with ⟨-, same⟩ | ⟨-, -, moved⟩
      · rw [same]
        exact adapterInside
      · rw [moved]
        apply Adapter.InBuffer.updateSignalled
        exact { adapterInside with wr := (created packet (List.mem_of_getLast? last)).1 }
  | flush =>
    simp only [Session.step, Option.some.injEq] at taken
    subst taken
    obtain ⟨adapterInside, created⟩ := inside
    refine ⟨?_, created⟩
    have positive := Nat.zero_lt_of_lt adapterInside.rd
    rcases session.adapter.flush_cases with ⟨same, -⟩ | ⟨-, -, -, moved⟩
    · rw [same]
      exact adapterInside
    · rw [moved]
      exact { adapterInside with rd := positive, wr := positive, queue := by simp }
  | answer result => exact answer_inBuffer inside result taken
  | acknowledgeFlush => exact acknowledgeFlush_inBuffer inside taken
  | setWatermarks | setSignalCallback | signalTask =>
    obtain ⟨adapter, rfl, only⟩ := Session.step_signals rfl taken
    exact ⟨inside.adapter.congr only.pointers, inside.created⟩

end Steps

theorem run_inBuffer (bufferSize limit rd wr flushGeneration seqNumGen : Nat)
    (positive : 1 ≤ bufferSize) (small : bufferSize < 2 ^ 64)
    (limited : limit = bufferSize ∨ limit = 2 ^ 64) (rdIn : rd < limit) (wrIn : wr < limit)
    (events : List Event) (session : Session)
    (reached : run Session.step (.start bufferSize rd wr flushGeneration seqNumGen) events =
      some session) : InBuffer bufferSize limit session := by
  refine invariant_of_run Session.step (InBuffer bufferSize limit) step_inBuffer _ session
    events ?_ reached
  constructor
  · exact ⟨rfl, positive, small, limited, rdIn, wrIn, by simp [Session.start]⟩
  · simp [Session.start]

def Contiguous (bufferSize size : Nat) (packet : MappedPacket) : Prop :=
  ∃ offset, packet.packet = some ⟨⟨offset, size⟩, []⟩ ∧ offset + size ≤ bufferSize

theorem contiguous_iff (bufferSize start size allocEnd : Nat) (packet : MappedPacket)
    (held : packet.packet = some (Adapter.allocRegions bufferSize start allocEnd size))
    (whole : start + size ≤ bufferSize → allocEnd = start + size) :
    Contiguous bufferSize size packet ↔ start + size ≤ bufferSize := by
  constructor
  · rintro ⟨offset, same, bound⟩
    have regions := Option.some.inj (held.symm.trans same)
    unfold Adapter.allocRegions at regions
    split at regions
    · simp at regions
    · obtain rfl : start = offset := by simpa using regions
      exact bound
  · intro fits
    refine ⟨start, ?_, fits⟩
    rw [held, whole fits, allocRegions_fits _ _ _ fits]

-- In every state that is reached from any two pointers, also from such as lie behind the end of
-- the buffer.
theorem no_wrap_honoured_iff (bufferSize rd wr flushGeneration seqNumGen : Nat)
    (positive : 1 ≤ bufferSize) (small : bufferSize < 2 ^ 64) (rdWord : rd < 2 ^ 64)
    (wrWord : wr < 2 ^ 64) (events : List Event) (session : Session)
    (reached : run Session.step (.start bufferSize rd wr flushGeneration seqNumGen) events =
      some session)
    (size : Nat) (packet : MappedPacket)
    (accepted : (session.adapter.createMediaPacket size true packet).result = .ok) :
    Contiguous bufferSize size (session.adapter.createMediaPacket size true packet).packet ↔
      session.adapter.wr + size ≤ bufferSize ∨
        session.adapter.rd < session.adapter.wr ∧ session.adapter.wr ≤ bufferSize := by
  obtain ⟨⟨sized, -, -, -, -, wrIn, -⟩, -⟩ := run_inBuffer bufferSize (2 ^ 64) rd wr
    flushGeneration seqNumGen positive small (.inr rfl) rdWord wrWord events session reached
  rcases session.adapter.createMediaPacket_cases size true packet with
    ⟨failed, -⟩ | ⟨-, -, short, data, length, outcome⟩
  · exact absurd accepted failed
  rw [sized, subU64_of_le _ _ small positive] at short
  rw [outcome, contiguous_iff bufferSize _ size _ _ (by rw [sized])
    (fun fits => u64_of_lt _ (by omega))]
  have left : session.adapter.pads size true = true ↔ session.adapter.rd < session.adapter.wr ∧
      session.adapter.wr ≤ bufferSize ∧ bufferSize < session.adapter.wr + size := by
    simp only [Adapter.pads, sized, subU64, Bool.true_and, Bool.and_eq_true, decide_eq_true_eq]
    unfold u64
    omega
  simp only [Adapter.allocStart, left]
  split
  next padded => omega
  next unpadded => omega

theorem no_wrap_honoured_padded :
    ∃ session, run Session.step (.start 8 1 1 0 0) [.create 4 false, .send none,
        .answer .consumed, .create 2 false] = some session ∧
      Contiguous 8 3 (session.adapter.createMediaPacket 3 true {}).packet :=
  ⟨_, rfl, (no_wrap_honoured_iff 8 1 1 0 0 (by decide) (by decide) (by decide) (by decide)
    [.create 4 false, .send none, .answer .consumed, .create 2 false] _ rfl 3 {} rfl).mpr
      (by decide)⟩

theorem empty_of_unpadded (adapter : Adapter) (size : Nat) (noWrap : Bool) (packet : MappedPacket)
    (large : adapter.bufferSize ≤ 2 ^ 63) (rdIn : adapter.rd < adapter.bufferSize)
    (behind : adapter.wr ≤ adapter.rd) (wraps : adapter.bufferSize < adapter.wr + size)
    (accepted : (adapter.createMediaPacket size noWrap packet).result = .ok) :
    adapter.rd = adapter.wr := by
  have test := accepts_of_ok adapter size noWrap packet accepted
  have unpadded : adapter.pads size noWrap = false := by
    simp only [Adapter.pads, decide_eq_false (Nat.not_lt.mpr behind), Bool.and_false,
      Bool.false_and]
  have one : subU64 adapter.bufferSize 1 = adapter.bufferSize - 1 :=
    subU64_of_le _ _ (by omega) (by omega)
  simp only [Adapter.accepts, Adapter.allocStart, unpadded, one, Adapter.endsInPending,
    Bool.and_eq_true, Bool.not_eq_true', Bool.and_eq_false_iff, decide_eq_true_eq,
    decide_eq_false_iff_not, Bool.false_eq_true, if_false] at test
  obtain ⟨short, outside⟩ := test
  by_contra apart
  rw [if_pos (by omega), u64_of_lt _ (by omega), u64_of_lt _ (by omega)] at outside
  omega

theorem no_wrap_splits :
    ∃ session, run Session.step (.start 8 0 0 0 0) [.create 5 false, .send none,
        .answer .consumed] = some session ∧
      (session.adapter.createMediaPacket 4 true {}).result = .ok ∧
      (session.adapter.createMediaPacket 4 true {}).packet.packet =
        some ⟨⟨5, 3⟩, [⟨0, 1⟩]⟩ ∧
      ¬ Contiguous 8 4 (session.adapter.createMediaPacket 4 true {}).packet := by
  have split : ∃ session, run Session.step (.start 8 0 0 0 0) [.create 5 false, .send none,
        .answer .consumed] = some session ∧
      (session.adapter.createMediaPacket 4 true {}).result = .ok ∧
      (session.adapter.createMediaPacket 4 true {}).packet.packet =
        some ⟨⟨5, 3⟩, [⟨0, 1⟩]⟩ := ⟨_, rfl, rfl, rfl⟩
  obtain ⟨session, reached, accepted, regions⟩ := split
  refine ⟨session, reached, accepted, regions, ?_⟩
  rintro ⟨offset, same, -⟩
  simp [regions] at same

end MojoMedia.CircularBuffer
