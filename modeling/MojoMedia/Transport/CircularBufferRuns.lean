import MojoMedia.Transport.CircularBufferSafety

set_option autoImplicit false

namespace MojoMedia.CircularBuffer

open MachineInt Ring Runs

def Fits (session : Session) : Event → Prop
  | .create size noWrap => Orderly session (.create size noWrap)
  | .flush => False
  | .acknowledgeFlush => False
  | _ => True

instance (session : Session) : (event : Event) → Decidable (Fits session event)
  | .create size noWrap => inferInstanceAs (Decidable (Orderly session (.create size noWrap)))
  | .flush | .acknowledgeFlush => inferInstanceAs (Decidable False)
  | .send _ | .cancel | .answer _ | .setWatermarks _ _ | .setSignalCallback _ | .signalTask =>
    inferInstanceAs (Decidable True)

theorem orderly_of_fits (session : Session) (event : Event) (fits : Fits session event) :
    Orderly session event := by
  cases event with
  | create size noWrap => exact fits
  | flush => exact fits.elim
  | send | cancel | answer | acknowledgeFlush | setWatermarks | setSignalCallback | signalTask =>
    trivial

namespace Adapter

def epoch (adapter : Adapter) : Nat × Nat :=
  (adapter.bufferSize, adapter.flushGeneration)

@[simp] theorem epoch_updateSignalled (adapter : Adapter) :
    adapter.updateSignalled.epoch = adapter.epoch := by
  obtain ⟨_, _, _, same⟩ := adapter.updateSignalled_eq
  rw [same]
  rfl

@[simp] theorem epoch_fault (adapter : Adapter) (reason : MediaResult) :
    (adapter.fault reason).epoch = adapter.epoch := by
  unfold fault
  split
  · rw [epoch_updateSignalled]
    rfl
  · rw [epoch_updateSignalled]

theorem epoch_create (adapter : Adapter) (size : Nat) (noWrap : Bool) (packet : MappedPacket) :
    (adapter.createMediaPacket size noWrap packet).adapter.epoch = adapter.epoch := by
  rcases adapter.createMediaPacket_cases size noWrap packet with
    ⟨-, same⟩ | ⟨-, -, -, data, length, outcome⟩
  · rw [same]
  · rw [outcome, epoch_updateSignalled]
    rfl

theorem epoch_send (adapter : Adapter) (packet : MappedPacket) (cbk : Option Nat) :
    (adapter.sendMediaPacket packet cbk).adapter.epoch = adapter.epoch := by
  rcases adapter.sendMediaPacket_cases packet cbk with
    ⟨-, ⟨-, same⟩ | ⟨-, failed⟩⟩ | ⟨media, -, -, -, -, outcome⟩
  · rw [same]
  · rw [failed, epoch_fault]
  · rw [outcome]
    rfl

theorem epoch_cancel (adapter : Adapter) (packet : MappedPacket) :
    (adapter.cancelMediaPacket packet).adapter.epoch = adapter.epoch := by
  rcases adapter.cancelMediaPacket_cases packet with ⟨-, same⟩ | ⟨-, -, moved⟩
  · rw [same]
  · rw [moved, epoch_updateSignalled]
    rfl

theorem epoch_handleSendPacket (adapter : Adapter) (seqNum : Nat) (result : SendResult) :
    (adapter.handleSendPacket seqNum result).1.epoch = adapter.epoch := by
  rcases adapter.handleSendPacket_cases seqNum result with
    failed | ⟨front, others, -, -, ⟨-, moved⟩ | ⟨-, -, moved⟩ | ⟨-, -, failed⟩⟩
  · rw [failed, epoch_fault]
  · rw [moved]
    rfl
  · rw [moved, epoch_updateSignalled]
    rfl
  · rw [failed, epoch_fault]
    rfl

theorem SignalsOnly.epoch {adapter after : Adapter} (only : adapter.SignalsOnly after) :
    after.epoch = adapter.epoch := by
  obtain ⟨_, _, _, _, _, _, _, rfl⟩ := only
  rfl

end Adapter

theorem step_epoch (session : Session) (event : Event) (next : Session)
    (taken : session.step event = some next) (noFlush : event ≠ .flush)
    (noAcknowledge : event ≠ .acknowledgeFlush) :
    next.adapter.epoch = session.adapter.epoch ∧ ∀ packet ∈ next.created,
      packet ∈ session.created ∨ packet.flushGeneration = session.adapter.flushGeneration := by
  cases event with
  | create size noWrap =>
    have same := session.adapter.epoch_create size noWrap {}
    simp only [Session.step] at taken
    split at taken
    next ok =>
      simp only [Option.some.injEq] at taken
      subst taken
      refine ⟨same, fun packet member => ?_⟩
      rcases List.mem_append.mp member with old | new
      · exact .inl old
      · obtain rfl := List.mem_singleton.mp new
        rcases session.adapter.createMediaPacket_cases size noWrap {} with
          ⟨failed, -⟩ | ⟨-, -, -, data, length, outcome⟩
        · exact absurd ok failed
        · rw [outcome]
          exact .inr rfl
    next =>
      simp only [Option.some.injEq] at taken
      subst taken
      exact ⟨same, fun packet member => .inl member⟩
  | send cbk =>
    simp only [Session.step] at taken
    cases held : session.created with
    | nil => simp [held] at taken
    | cons first rest =>
      simp only [held, Option.some.injEq] at taken
      subst taken
      exact ⟨session.adapter.epoch_send first cbk, fun packet member => .inl (by simp [member])⟩
  | cancel =>
    simp only [Session.step] at taken
    cases held : session.created.getLast? with
    | none => simp [held] at taken
    | some last =>
      simp only [held, Option.some.injEq] at taken
      subst taken
      exact ⟨session.adapter.epoch_cancel last,
        fun packet member => .inl (List.dropLast_subset _ member)⟩
  | flush => exact absurd rfl noFlush
  | answer result =>
    simp only [Session.step] at taken
    split at taken
    · simp only [Option.some.injEq] at taken
      subst taken
      exact ⟨session.adapter.epoch_handleSendPacket _ _, fun packet member => .inl member⟩
    · simp at taken
  | acknowledgeFlush => exact absurd rfl noAcknowledge
  | setWatermarks | setSignalCallback | signalTask =>
    obtain ⟨adapter, rfl, only⟩ := Session.step_signals rfl taken
    exact ⟨only.epoch, fun packet member => .inl member⟩

def Current (session : Session) : Prop :=
  ∀ packet ∈ session.created, packet.flushGeneration = session.adapter.flushGeneration

theorem current_step (session : Session) (event : Event) (next : Session)
    (current : Current session) (fits : Fits session event)
    (taken : session.step event = some next) :
    Current next ∧ next.adapter.bufferSize = session.adapter.bufferSize := by
  obtain ⟨epoch, origin⟩ := step_epoch session event next taken
    (by rintro rfl; exact fits) (by rintro rfl; exact fits)
  refine ⟨?_, congrArg (·.1) epoch⟩
  have generation : next.adapter.flushGeneration = session.adapter.flushGeneration :=
    congrArg (·.2) epoch
  intro packet member
  rw [generation]
  rcases origin packet member with old | new
  · exact current packet old
  · exact new

def MediaPacket.Apart (left right : MediaPacket) : Prop :=
  ∀ first ∈ left.regions, ∀ second ∈ right.regions, ∀ byte,
    first.Holds byte → ¬ second.Holds byte

theorem apart_of_chain {bufferSize first last : Nat} {packets : List MediaPacket}
    (large : bufferSize ≤ 2 ^ 63) (window : last < first + bufferSize)
    (chain : Chain (Placed bufferSize) first packets last) :
    packets.Pairwise MediaPacket.Apart := by
  refine chain_pairwise chain ?_
  intro left right a b c d fromFirst order toLast leftPlaced rightPlaced
  obtain ⟨leftStart, leftSize, leftFrom, leftTo, leftCovers⟩ := leftPlaced.covers large
  obtain ⟨rightStart, rightSize, rightFrom, rightTo, rightCovers⟩ := rightPlaced.covers large
  intro region leftMember other rightMember byte leftHolds rightHolds
  exact covers_disjoint bufferSize leftStart leftSize rightStart rightSize byte (by omega)
    (by omega) (leftCovers region leftMember byte leftHolds)
    (rightCovers other rightMember byte rightHolds)

theorem Placed.regions_apart {bufferSize before after : Nat} {packet : MediaPacket}
    (placed : Placed bufferSize packet before after) (large : bufferSize ≤ 2 ^ 63) :
    packet.regions.Pairwise fun left right => ∀ byte, left.Holds byte → ¬ right.Holds byte := by
  obtain ⟨start, size, -, -, small, rfl⟩ := placed
  have inside : start % bufferSize < bufferSize := Nat.mod_lt _ (by omega)
  by_cases wraps : bufferSize < start % bufferSize + size
  · rw [allocRegions_wraps _ _ _ large small inside wraps]
    simp only [MediaPacket.regions, List.pairwise_cons, List.mem_singleton, forall_eq,
      List.not_mem_nil, false_imp_iff, implies_true, List.Pairwise.nil, and_true,
      MediaPacketRegion.Holds]
    intro byte left right
    omega
  · rw [allocRegions_fits _ _ _ (Nat.le_of_not_lt wraps)]
    simp [MediaPacket.regions]

theorem Laid.no_stale {session : Session} {sent : List (PacketState × MediaPacket)}
    {stale fresh : List MappedPacket} {slack readAt rdAt sentAt wrAt : Nat}
    (laid : Laid slack session sent stale fresh readAt rdAt sentAt wrAt) (current : Current session) :
    stale = [] := by
  refine List.eq_nil_iff_forall_not_mem.mpr fun packet member => ?_
  refine laid.outdated packet member (current packet ?_)
  rw [laid.created]
  exact List.mem_append_left _ member

theorem Laid.fits {session : Session} {sent : List (PacketState × MediaPacket)}
    {stale fresh : List MappedPacket} {slack readAt rdAt sentAt wrAt : Nat}
    (laid : Laid slack session sent stale fresh readAt rdAt sentAt wrAt) :
    wrAt < rdAt + session.adapter.bufferSize :=
  Nat.lt_of_lt_of_le laid.window (Nat.add_le_add_right laid.behind _)

theorem Laid.chain {session : Session} {sent : List (PacketState × MediaPacket)}
    {stale fresh : List MappedPacket} {slack readAt rdAt sentAt wrAt : Nat}
    (laid : Laid slack session sent stale fresh readAt rdAt sentAt wrAt) :
    Chain (Placed session.adapter.bufferSize) rdAt
      (session.outstanding.map Prod.snd ++ fresh.filterMap MappedPacket.packet) wrAt := by
  have packets : fresh.filterMap MappedPacket.packet =
      fresh.map fun mapped => mapped.packet.getD ⟨⟨0, 0⟩, []⟩ := by
    rw [← List.filterMap_eq_map]
    refine List.filterMap_congr fun mapped member => ?_
    obtain ⟨_, _, -, -, -, -, -, media, held, -⟩ := chain_mem laid.freshChain mapped member
    simp [held]
  rw [laid.outstanding, List.map_map, packets]
  refine (chain_append _ _ _ _).mpr ⟨sentAt, ?_, ?_⟩
  · exact chain_map _ laid.sentChain fun item before after placed => placed.2
  · refine chain_map _ laid.freshChain fun mapped before after placed => ?_
    obtain ⟨-, -, media, held, placed⟩ := placed
    simpa [held] using placed

theorem live_chain {slack : Nat} (session : Session) (sound : Sound slack session)
    (current : Current session) :
    session.adapter.bufferSize ≤ 2 ^ 63 ∧ ∃ rdAt wrAt,
      wrAt < rdAt + session.adapter.bufferSize ∧
      Chain (Placed session.adapter.bufferSize) rdAt session.live wrAt := by
  obtain ⟨sent, stale, fresh, readAt, rdAt, sentAt, wrAt, laid⟩ := sound
  refine ⟨laid.large, rdAt, wrAt, laid.fits, ?_⟩
  rw [Session.live, laid.created, laid.no_stale current, List.nil_append]
  exact laid.chain

theorem live_regions_disjoint (bufferSize flushGeneration seqNumGen : Nat)
    (positive : 1 ≤ bufferSize) (large : bufferSize ≤ 2 ^ 63) (events : List Event)
    (final : Session)
    (fits : Meets Session.step Fits (.start bufferSize 0 0 flushGeneration seqNumGen) events)
    (reached : run Session.step (.start bufferSize 0 0 flushGeneration seqNumGen) events =
      some final) :
    (∀ packet ∈ final.live, ∀ region ∈ packet.regions,
      region.offset + region.length ≤ bufferSize) ∧
    final.live.Pairwise MediaPacket.Apart ∧
    ∀ packet ∈ final.live, packet.regions.Pairwise fun left right =>
      ∀ byte, left.Holds byte → ¬ right.Holds byte := by
  let invariant : Session → Prop := fun session =>
    Sound 0 session ∧ Current session ∧ session.adapter.bufferSize = bufferSize
  have kept : invariant final := by
    refine invariant_of_step Session.step Fits invariant ?_ _ final events ?_ fits reached
    · rintro session event next ⟨sound, current, size⟩ fit taken
      obtain ⟨currentNext, sizeNext⟩ := current_step session event next current fit taken
      exact ⟨step_sound session event next sound (orderly_of_fits session event fit) taken,
        currentNext, sizeNext.trans size⟩
    · refine ⟨start_sound _ _ _ _ _ positive positive large, ?_, rfl⟩
      intro packet member
      simp [Session.start] at member
  obtain ⟨sound, current, size⟩ := kept
  obtain ⟨-, rdAt, wrAt, window, chain⟩ := live_chain final sound current
  rw [size] at window chain
  refine ⟨?_, apart_of_chain large window chain, ?_⟩
  · intro packet member region inPacket
    obtain ⟨before, after, -, -, -, placed⟩ := chain_mem chain packet member
    exact placed.inside large region inPacket
  · intro packet member
    obtain ⟨before, after, -, -, -, placed⟩ := chain_mem chain packet member
    exact placed.regions_apart large

theorem live_regions_disjoint_wrapping :
    ∃ final, run Session.step (.start 8 0 0 0 0) [.create 5 false, .send none, .answer .consumed,
        .create 4 false, .create 1 true, .cancel] = some final ∧
      final.live = [⟨⟨5, 3⟩, [⟨0, 1⟩]⟩] ∧ final.live.Pairwise MediaPacket.Apart :=
  ⟨_, rfl, rfl, (live_regions_disjoint 8 0 0 (by decide) (by decide)
    [.create 5 false, .send none, .answer .consumed, .create 4 false, .create 1 true, .cancel] _
    (by decide) rfl).2.1⟩

theorem create_overtakes :
    ∃ final, run Session.step (.start 8 0 0 0 0) [.create 5 false, .create 5 false] = some final ∧
      final.live = [⟨⟨0, 5⟩, []⟩, ⟨⟨5, 3⟩, [⟨0, 2⟩]⟩] ∧
      ¬ final.live.Pairwise MediaPacket.Apart := by
  refine ⟨_, rfl, rfl, ?_⟩
  intro apart
  have first : MediaPacket.Apart ⟨⟨0, 5⟩, []⟩ ⟨⟨5, 3⟩, [⟨0, 2⟩]⟩ :=
    (List.pairwise_cons.mp apart).1 _ (List.mem_singleton.mpr rfl)
  exact first ⟨0, 5⟩ (by decide) ⟨0, 2⟩ (by decide) 0 ⟨by decide, by decide⟩
    ⟨by decide, by decide⟩

theorem orderly_never_faults (bufferSize rd wr flushGeneration seqNumGen : Nat)
    (rdIn : rd < bufferSize) (wrIn : wr < bufferSize) (large : bufferSize ≤ 2 ^ 63)
    (events : List Event) (final : Session)
    (orderly : Meets Session.step Orderly (.start bufferSize rd wr flushGeneration seqNumGen)
      events)
    (reached : run Session.step (.start bufferSize rd wr flushGeneration seqNumGen) events =
      some final) :
    final.adapter.faulted = false := by
  have sound : Sound (distance bufferSize rd wr) final := by
    refine invariant_of_step Session.step Orderly (Sound (distance bufferSize rd wr)) ?_ _ final
      events ?_ orderly reached
    · exact step_sound
    · exact start_sound _ _ _ _ _ rdIn wrIn large
  obtain ⟨sent, stale, fresh, readAt, rdAt, sentAt, wrAt, laid⟩ := sound
  simpa using laid.running

theorem orderly_never_faults_flushing :
    ∃ final, run Session.step (.start 8 3 6 0 0) [.create 4 false, .send none, .answer .consumed,
        .create 2 false, .flush, .send none, .flush, .create 7 true] = some final ∧
      final.adapter.faulted = false :=
  ⟨_, rfl, orderly_never_faults 8 3 6 0 0 (by decide) (by decide) (by decide)
    [.create 4 false, .send none, .answer .consumed, .create 2 false, .flush, .send none, .flush,
      .create 7 true] _ (by decide) rfl⟩

theorem late_answer_faults :
    ∃ final, run Session.step (.start 8 0 0 0 0) [.create 5 false, .send none, .flush,
      .answer .flushed] = some final ∧ final.adapter.faulted = true :=
  ⟨_, rfl, rfl⟩

end MojoMedia.CircularBuffer
