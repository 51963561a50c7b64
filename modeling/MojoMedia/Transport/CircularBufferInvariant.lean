import MojoMedia.Shared.Ring
import MojoMedia.Transport.CircularBufferSession

set_option autoImplicit false

namespace MojoMedia.CircularBuffer

open MachineInt Ring

namespace Adapter

theorem updateSignalled_eq (adapter : Adapter) : ∃ signalled postedTasks cbkScheduled,
    adapter.updateSignalled = { adapter with signalled, postedTasks, cbkScheduled } := by
  unfold updateSignalled
  simp only
  split
  · exact ⟨adapter.nextSignalled, adapter.postedTasks + 1, true, rfl⟩
  · exact ⟨adapter.nextSignalled, adapter.postedTasks, adapter.cbkScheduled, rfl⟩

@[simp] theorem faulted_eq_false (adapter : Adapter) :
    adapter.faulted = false ↔ adapter.internalState = .ok := by
  simp [faulted]

theorem createMediaPacket_cases (adapter : Adapter) (size : Nat) (noWrap : Bool)
    (packet : MappedPacket) :
    ((adapter.createMediaPacket size noWrap packet).result ≠ .ok ∧
      (adapter.createMediaPacket size noWrap packet).adapter = adapter) ∨
    (adapter.internalState = .ok ∧ adapter.flushInProgress = false ∧
      size ≤ subU64 adapter.bufferSize 1 ∧
      ∃ data length,
        adapter.createMediaPacket size noWrap packet =
          { result := .ok
            packet :=
              { packet := some (allocRegions adapter.bufferSize (adapter.allocStart size noWrap)
                  (u64 (adapter.allocStart size noWrap + size)) size)
                data
                length
                cancelWr := adapter.wr
                flushGeneration := adapter.flushGeneration }
            adapter :=
              ({ adapter with
                wr := u64 (adapter.allocStart size noWrap + size) % adapter.bufferSize
                }).updateSignalled }) := by
  unfold createMediaPacket
  by_cases faulty : adapter.faulted = true
  · simp [faulty]
  by_cases waiting : adapter.busy = true
  · simp [faulty, waiting]
  by_cases large : subU64 adapter.bufferSize 1 < size
  · simp [faulty, waiting, large]
  simp only [faulty, waiting, large, if_false, Bool.false_eq_true]
  split
  · simp
  · refine Or.inr ⟨by simpa [faulted] using faulty, by simpa [busy] using waiting,
      Nat.le_of_not_lt large, _, _, rfl⟩

def HasRoom (adapter : Adapter) (size : Nat) (noWrap : Bool) : Prop :=
  if adapter.pads size noWrap then size < adapter.rd
  else adapter.getPending + size < adapter.bufferSize

instance (adapter : Adapter) (size : Nat) (noWrap : Bool) :
    Decidable (adapter.HasRoom size noWrap) :=
  inferInstanceAs (Decidable
    (if adapter.pads size noWrap = true then size < adapter.rd
      else adapter.getPending + size < adapter.bufferSize))

theorem getPending_eq (adapter : Adapter) (mapped : adapter.buffer = true)
    (large : adapter.bufferSize ≤ 2 ^ 63) (rdIn : adapter.rd < adapter.bufferSize)
    (wrIn : adapter.wr < adapter.bufferSize) :
    adapter.getPending = distance adapter.bufferSize adapter.rd adapter.wr := by
  simp only [getPending, mapped, distance]
  by_cases order : adapter.rd ≤ adapter.wr
  · rw [if_neg (by simp), if_neg (by omega), if_pos order, subU64_of_le _ _ (by omega) order]
    exact u64_of_lt _ (by omega)
  · rw [if_neg (by simp), if_pos (by omega), if_neg order]
    simp only [subU64, u64]
    omega

end Adapter

def MediaPacket.regions (packet : MediaPacket) : List MediaPacketRegion :=
  packet.payload :: packet.extraPayload

def MediaPacketRegion.Holds (region : MediaPacketRegion) (byte : Nat) : Prop :=
  region.offset ≤ byte ∧ byte < region.offset + region.length

def Placed (bufferSize : Nat) (packet : MediaPacket) (before after : Nat) : Prop :=
  ∃ start size, before ≤ start ∧ after = start + size ∧ size < bufferSize ∧
    packet = Adapter.allocRegions bufferSize (start % bufferSize)
      (start % bufferSize + size) size

theorem allocRegions_wraps (bufferSize offset size : Nat) (large : bufferSize ≤ 2 ^ 63)
    (small : size < bufferSize) (inside : offset < bufferSize)
    (wraps : bufferSize < offset + size) :
    Adapter.allocRegions bufferSize offset (offset + size) size =
      ⟨⟨offset, bufferSize - offset⟩, [⟨0, size - (bufferSize - offset)⟩]⟩ := by
  simp only [Adapter.allocRegions, if_pos wraps]
  rw [subU64_of_le bufferSize offset (by omega) (by omega),
    subU64_of_le size (bufferSize - offset) (by omega) (by omega)]

theorem allocRegions_fits (bufferSize offset size : Nat) (fits : offset + size ≤ bufferSize) :
    Adapter.allocRegions bufferSize offset (offset + size) size = ⟨⟨offset, size⟩, []⟩ := by
  simp only [Adapter.allocRegions, if_neg (Nat.not_lt.mpr fits)]

section Placed

variable {bufferSize before after : Nat} {packet : MediaPacket}

theorem Placed.inside (placed : Placed bufferSize packet before after)
    (large : bufferSize ≤ 2 ^ 63) (region : MediaPacketRegion)
    (member : region ∈ packet.regions) : region.offset + region.length ≤ bufferSize := by
  obtain ⟨start, size, -, -, small, rfl⟩ := placed
  have inside : start % bufferSize < bufferSize := Nat.mod_lt _ (by omega)
  by_cases wraps : bufferSize < start % bufferSize + size
  · rw [allocRegions_wraps _ _ _ large small inside wraps] at member
    simp only [MediaPacket.regions, List.mem_cons, List.not_mem_nil, or_false] at member
    rcases member with rfl | rfl
    · simp only
      omega
    · simp only
      omega
  · rw [allocRegions_fits _ _ _ (Nat.le_of_not_lt wraps)] at member
    simp only [MediaPacket.regions, List.mem_cons, List.not_mem_nil, or_false] at member
    subst member
    exact Nat.le_of_not_lt wraps

theorem Placed.covers (placed : Placed bufferSize packet before after)
    (large : bufferSize ≤ 2 ^ 63) :
    ∃ start size, before ≤ start ∧ after = start + size ∧
      ∀ region ∈ packet.regions, ∀ byte, region.Holds byte →
        Covers bufferSize start size byte := by
  obtain ⟨start, size, order, ends, small, rfl⟩ := placed
  refine ⟨start, size, order, ends, ?_⟩
  have inside : start % bufferSize < bufferSize := Nat.mod_lt _ (by omega)
  intro region member byte held
  obtain ⟨lower, upper⟩ := held
  by_cases wraps : bufferSize < start % bufferSize + size
  · rw [allocRegions_wraps _ _ _ large small inside wraps] at member
    simp only [MediaPacket.regions, List.mem_cons, List.not_mem_nil, or_false] at member
    rcases member with rfl | rfl
    · simp only at lower upper
      refine ⟨start + (byte - start % bufferSize), by omega, by omega, ?_⟩
      rw [add_mod_of_lt _ _ _ (by omega)]
      omega
    · simp only at lower upper
      refine ⟨start + (bufferSize - start % bufferSize + byte), by omega, by omega, ?_⟩
      rw [add_mod_of_le _ _ _ (by omega) (by omega) (by omega)]
      omega
  · rw [allocRegions_fits _ _ _ (Nat.le_of_not_lt wraps)] at member
    simp only [MediaPacket.regions, List.mem_cons, List.not_mem_nil, or_false] at member
    subst member
    simp only at lower upper
    refine ⟨start + (byte - start % bufferSize), by omega, by omega, ?_⟩
    rw [add_mod_of_lt _ _ _ (by omega)]
    omega

theorem Placed.postConsumeRd (placed : Placed bufferSize packet before after)
    (large : bufferSize ≤ 2 ^ 63) :
    (if Adapter.regionsEnd packet = bufferSize then 0 else Adapter.regionsEnd packet) =
      after % bufferSize := by
  obtain ⟨start, size, -, rfl, small, rfl⟩ := placed
  have inside : start % bufferSize < bufferSize := Nat.mod_lt _ (by omega)
  by_cases wraps : bufferSize < start % bufferSize + size
  · rw [allocRegions_wraps _ _ _ large small inside wraps,
      add_mod_of_le _ _ _ (by omega) (by omega) (by omega)]
    simp only [Adapter.regionsEnd, List.head?_cons, u64_of_lt _ (show
      0 + (size - (bufferSize - start % bufferSize)) < 2 ^ 64 by omega)]
    rw [if_neg (by omega)]
    omega
  · rw [allocRegions_fits _ _ _ (Nat.le_of_not_lt wraps)]
    simp only [Adapter.regionsEnd, List.head?_nil,
      u64_of_lt _ (show start % bufferSize + size < 2 ^ 64 by omega)]
    by_cases full : start % bufferSize + size = bufferSize
    · rw [if_pos full, add_mod_of_le _ _ _ (by omega) (by omega) (by omega)]
      omega
    · rw [if_neg full, add_mod_of_lt _ _ _ (by omega)]

end Placed

namespace Adapter

def accepts (adapter : Adapter) (size : Nat) (noWrap : Bool) : Bool :=
  decide (size ≤ subU64 adapter.bufferSize 1) &&
    !adapter.endsInPending (u64 (adapter.allocStart size noWrap + size))

theorem hasRoom_of_behind (adapter : Adapter) (size : Nat) (noWrap : Bool)
    (mapped : adapter.buffer = true) (large : adapter.bufferSize ≤ 2 ^ 63)
    (rdIn : adapter.rd < adapter.bufferSize) (behind : adapter.wr < adapter.rd)
    (accepted : adapter.accepts size noWrap = true) : adapter.HasRoom size noWrap := by
  have unpadded : adapter.pads size noWrap = false := by
    simp only [pads, decide_eq_false (Nat.lt_asymm behind), Bool.and_false, Bool.false_and]
  have one : subU64 adapter.bufferSize 1 = adapter.bufferSize - 1 :=
    subU64_of_le _ _ (by omega) (by omega)
  simp only [accepts, allocStart, unpadded, one, endsInPending, Bool.and_eq_true,
    Bool.not_eq_true', Bool.and_eq_false_iff, decide_eq_true_eq, decide_eq_false_iff_not,
    if_pos behind, Bool.false_eq_true, if_false] at accepted
  obtain ⟨small, outside⟩ := accepted
  rw [u64_of_lt _ (show adapter.wr + size < 2 ^ 64 by omega),
    u64_of_lt _ (show adapter.wr + adapter.bufferSize < 2 ^ 64 by omega)] at outside
  rw [HasRoom, if_neg (by simp [unpadded]), adapter.getPending_eq mapped large rdIn (by omega),
    distance, if_neg (by omega)]
  omega

def core (adapter : Adapter) : Adapter :=
  { adapter with
    signalCbk := none
    faultCbkMade := false
    cbkScheduled := false
    hiWaterMark := 0
    loWaterMark := 0
    signalled := false
    seqNumGen := 0
    postedTasks := 0 }

@[simp] theorem core_updateSignalled (adapter : Adapter) :
    adapter.updateSignalled.core = adapter.core := by
  obtain ⟨_, _, _, same⟩ := adapter.updateSignalled_eq
  rw [same]
  rfl

end Adapter

def PlacedSent (bufferSize : Nat) (item : PacketState × MediaPacket) (before after : Nat) : Prop :=
  item.1.postConsumeRd = after % bufferSize ∧ Placed bufferSize item.2 before after

def PlacedCreated (bufferSize flushGeneration : Nat) (mapped : MappedPacket)
    (before after : Nat) : Prop :=
  mapped.flushGeneration = flushGeneration ∧ mapped.cancelWr = before % bufferSize ∧
    ∃ media, mapped.packet = some media ∧ Placed bufferSize media before after

-- `stale` packets were created before the last flush, `fresh` ones since. At first there can be
-- up to `slack` bytes that no packet takes, as `Init` leaves the pointers alone.
structure Laid (slack : Nat) (session : Session) (sent : List (PacketState × MediaPacket))
    (stale fresh : List MappedPacket) (readAt rdAt sentAt wrAt : Nat) : Prop where
  running : session.adapter.internalState = .ok
  bound : session.adapter.pipeBound = true
  mapped : session.adapter.buffer = true
  positive : 0 < session.adapter.bufferSize
  large : session.adapter.bufferSize ≤ 2 ^ 63
  queue : session.adapter.inFlightQueue = sent.map Prod.fst
  outstanding : session.outstanding = sent.map fun item => (item.1.seqNum, item.2)
  created : session.created = stale ++ fresh
  outdated : ∀ packet ∈ stale, packet.flushGeneration ≠ session.adapter.flushGeneration
  sentChain : Chain (PlacedSent session.adapter.bufferSize) rdAt sent sentAt
  freshChain : Chain (PlacedCreated session.adapter.bufferSize session.adapter.flushGeneration)
    sentAt fresh wrAt
  behind : readAt ≤ rdAt
  near : rdAt ≤ readAt + slack
  window : wrAt < readAt + session.adapter.bufferSize
  rd : session.adapter.rd = readAt % session.adapter.bufferSize
  wr : session.adapter.wr = wrAt % session.adapter.bufferSize
  flushing : session.adapter.flushInProgress = true → sent = [] ∧ fresh = []
  flushes : session.flushes = if session.adapter.flushInProgress then 1 else 0

def Sound (slack : Nat) (session : Session) : Prop :=
  ∃ sent stale fresh readAt rdAt sentAt wrAt,
    Laid slack session sent stale fresh readAt rdAt sentAt wrAt

theorem start_sound (bufferSize rd wr flushGeneration seqNumGen : Nat) (rdIn : rd < bufferSize)
    (wrIn : wr < bufferSize) (large : bufferSize ≤ 2 ^ 63) :
    Sound (distance bufferSize rd wr) (.start bufferSize rd wr flushGeneration seqNumGen) := by
  have positive : 0 < bufferSize := by omega
  have gap := distance_lt bufferSize rd wr rdIn wrIn
  let wrAt := rd + distance bufferSize rd wr
  refine ⟨[], [], [], rd, wrAt, wrAt, wrAt, ?_⟩
  exact
    { running := rfl
      bound := rfl
      mapped := rfl
      positive
      large
      queue := rfl
      outstanding := rfl
      created := rfl
      outdated := by simp
      sentChain := rfl
      freshChain := rfl
      behind := Nat.le_add_right _ _
      near := Nat.le_refl _
      window := Nat.add_lt_add_left gap rd
      rd := (Nat.mod_eq_of_lt rdIn).symm
      wr := (mod_distance bufferSize rd wr rdIn wrIn).symm
      flushing := by simp [Session.start]
      flushes := rfl }

section Steps

variable {session : Session} {sent : List (PacketState × MediaPacket)}
  {stale fresh : List MappedPacket} {slack readAt rdAt sentAt wrAt : Nat}

theorem Laid.congr (laid : Laid slack session sent stale fresh readAt rdAt sentAt wrAt)
    (adapter : Adapter) (same : adapter.core = session.adapter.core) :
    Laid slack { session with adapter } sent stale fresh readAt rdAt sentAt wrAt := by
  simp only [Adapter.core, Adapter.mk.injEq, true_and, and_true] at same
  obtain ⟨sameBound, sameFlush, sameState, -, sameBuffer, sameSize, sameRd, sameWr,
    sameGeneration, sameQueue⟩ := same
  constructor
  case behind => exact laid.behind
  case near => exact laid.near
  all_goals simp only [sameState, sameBound, sameBuffer, sameSize, sameQueue,
    sameGeneration, sameRd, sameWr, sameFlush]
  exacts [laid.running, laid.bound, laid.mapped, laid.positive, laid.large, laid.queue,
    laid.outstanding, laid.created, laid.outdated, laid.sentChain, laid.freshChain,
    laid.window, laid.rd, laid.wr, laid.flushing, laid.flushes]

theorem sound_updateSignalled (adapter : Adapter) (created : List MappedPacket)
    (outstanding : List (Nat × MediaPacket)) (flushes : Nat)
    (sound : Sound slack ⟨adapter, created, outstanding, flushes⟩) :
    Sound slack ⟨adapter.updateSignalled, created, outstanding, flushes⟩ := by
  obtain ⟨sent, stale, fresh, readAt, rdAt, sentAt, wrAt, laid⟩ := sound
  exact ⟨sent, stale, fresh, readAt, rdAt, sentAt, wrAt, laid.congr _ adapter.core_updateSignalled⟩

theorem Laid.order (laid : Laid slack session sent stale fresh readAt rdAt sentAt wrAt) :
    readAt ≤ wrAt := by
  have sent := chain_le laid.sentChain
  have fresh := chain_le laid.freshChain
  have behind := laid.behind
  omega

theorem Laid.pending (laid : Laid slack session sent stale fresh readAt rdAt sentAt wrAt) :
    session.adapter.getPending = wrAt - readAt := by
  have rdIn : session.adapter.rd < session.adapter.bufferSize := by
    rw [laid.rd]; exact Nat.mod_lt _ laid.positive
  have wrIn : session.adapter.wr < session.adapter.bufferSize := by
    rw [laid.wr]; exact Nat.mod_lt _ laid.positive
  rw [session.adapter.getPending_eq laid.mapped laid.large rdIn wrIn, laid.rd, laid.wr]
  exact distance_eq _ _ _ laid.positive laid.order laid.window

theorem Laid.allocated (laid : Laid slack session sent stale fresh readAt rdAt sentAt wrAt)
    (size : Nat) (noWrap : Bool) (room : session.adapter.HasRoom size noWrap) :
    ∃ start, wrAt ≤ start ∧ start + size < readAt + session.adapter.bufferSize ∧
      session.adapter.allocStart size noWrap = start % session.adapter.bufferSize := by
  have order := laid.order
  have wrIn : session.adapter.wr < session.adapter.bufferSize := by
    rw [laid.wr]; exact Nat.mod_lt _ laid.positive
  have rdIn : session.adapter.rd < session.adapter.bufferSize := by
    rw [laid.rd]; exact Nat.mod_lt _ laid.positive
  by_cases padded : session.adapter.pads size noWrap = true
  · rw [Adapter.HasRoom, if_pos padded] at room
    have ahead : session.adapter.rd < session.adapter.wr := by
      simp only [Adapter.pads, Bool.and_eq_true, decide_eq_true_eq] at padded
      exact padded.1.2
    have gap : wrAt - readAt = session.adapter.wr - session.adapter.rd := by
      have pending := laid.pending
      rw [session.adapter.getPending_eq laid.mapped laid.large rdIn wrIn, distance,
        if_pos (Nat.le_of_lt ahead)] at pending
      exact pending.symm
    have whole : wrAt = session.adapter.bufferSize * (wrAt / session.adapter.bufferSize) +
        session.adapter.wr := by
      rw [laid.wr]; exact (Nat.div_add_mod _ _).symm
    refine ⟨session.adapter.bufferSize * (wrAt / session.adapter.bufferSize) +
      session.adapter.bufferSize, by omega, by omega, ?_⟩
    rw [Adapter.allocStart, if_pos padded, Nat.add_mod_right, Nat.mul_mod_right]
  · rw [Adapter.HasRoom, if_neg padded, laid.pending] at room
    refine ⟨wrAt, Nat.le_refl _, by omega, ?_⟩
    rw [Adapter.allocStart, if_neg padded, laid.wr]

end Steps

end MojoMedia.CircularBuffer
