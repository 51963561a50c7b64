import MojoMedia.Transport.CircularBufferCases

set_option autoImplicit false

namespace MojoMedia.CircularBuffer

open MachineInt Ring

section Steps

variable {session next : Session} {sent : List (PacketState × MediaPacket)}
  {stale fresh : List MappedPacket} {slack readAt rdAt sentAt wrAt : Nat}

-- Condition on one event, in the state it is taken from.
def Orderly (session : Session) : Event → Prop
  | .create size noWrap =>
    session.adapter.rd ≤ session.adapter.wr → session.adapter.accepts size noWrap = true →
      session.adapter.HasRoom size noWrap
  | .flush =>
    session.adapter.busy = true ∨ session.adapter.inFlightQueue = [] ∧
      ∀ packet ∈ session.created,
        packet.flushGeneration ≠ u32 (session.adapter.flushGeneration + 1)
  | .acknowledgeFlush =>
    session.adapter.flushInProgress = true → session.adapter.inFlightQueue ≠ []
  | _ => True

instance (session : Session) (event : Event) : Decidable (Orderly session event) := by
  cases event <;> simp only [Orderly] <;> infer_instance

theorem accepts_of_ok (adapter : Adapter) (size : Nat) (noWrap : Bool) (packet : MappedPacket)
    (ok : (adapter.createMediaPacket size noWrap packet).result = .ok) :
    adapter.accepts size noWrap = true := by
  unfold Adapter.createMediaPacket at ok
  split at ok
  · simp at ok
  split at ok
  · simp at ok
  split at ok
  · simp at ok
  next small =>
    simp only at ok
    split at ok
    · simp at ok
    next outside =>
      simp only [Adapter.accepts, Bool.and_eq_true, decide_eq_true_eq, Bool.not_eq_true']
      exact ⟨Nat.le_of_not_lt small, by simpa using outside⟩

theorem Laid.room (laid : Laid slack session sent stale fresh readAt rdAt sentAt wrAt)
    (size : Nat) (noWrap : Bool) (packet : MappedPacket)
    (orderly : Orderly session (.create size noWrap))
    (ok : (session.adapter.createMediaPacket size noWrap packet).result = .ok) :
    session.adapter.HasRoom size noWrap := by
  have accepted := accepts_of_ok session.adapter size noWrap packet ok
  by_cases behind : session.adapter.wr < session.adapter.rd
  · refine session.adapter.hasRoom_of_behind size noWrap laid.mapped laid.large ?_ behind accepted
    rw [laid.rd]
    exact Nat.mod_lt _ laid.positive
  · exact orderly (Nat.le_of_not_lt behind) accepted

theorem create_sound (laid : Laid slack session sent stale fresh readAt rdAt sentAt wrAt)
    (size : Nat) (noWrap : Bool) (orderly : Orderly session (.create size noWrap))
    (taken : session.step (.create size noWrap) = some next) : Sound slack next := by
  rcases session.adapter.createMediaPacket_cases size noWrap {} with
    ⟨failed, same⟩ | ⟨-, idle, small, data, length, outcome⟩
  · simp only [Session.step, if_neg failed, same, Option.some.injEq] at taken
    subst taken
    exact ⟨sent, stale, fresh, readAt, rdAt, sentAt, wrAt, laid⟩
  have room := laid.room size noWrap {} orderly (by rw [outcome])
  obtain ⟨start, order, window, startAt⟩ := laid.allocated size noWrap room
  have short : size < session.adapter.bufferSize := by
    have one : subU64 session.adapter.bufferSize 1 = session.adapter.bufferSize - 1 :=
      subU64_of_le _ _ (by have := laid.large; omega) laid.positive
    have positive := laid.positive
    omega
  have unwrapped : u64 (start % session.adapter.bufferSize + size) =
      start % session.adapter.bufferSize + size := by
    have inside := Nat.mod_lt start laid.positive
    have large := laid.large
    exact u64_of_lt _ (by omega)
  simp only [Session.step, outcome, if_true, Option.some.injEq, startAt, unwrapped] at taken
  subst taken
  apply sound_updateSignalled
  let packet : MappedPacket :=
    { packet := some (Adapter.allocRegions session.adapter.bufferSize
        (start % session.adapter.bufferSize) (start % session.adapter.bufferSize + size) size)
      data
      length
      cancelWr := session.adapter.wr
      flushGeneration := session.adapter.flushGeneration }
  refine ⟨sent, stale, fresh ++ [packet], readAt, rdAt, sentAt, start + size, ?_⟩
  exact
    { laid with
      created := by rw [laid.created, List.append_assoc]
      freshChain := (chain_snoc _ _ _ _).mpr ⟨wrAt, laid.freshChain, by omega, rfl, laid.wr, _,
        rfl, start, size, order, rfl, short, rfl⟩
      window := window
      wr := Nat.mod_add_mod _ _ _
      flushing := by simp [idle] }

theorem send_sound (laid : Laid slack session sent stale fresh readAt rdAt sentAt wrAt)
    (cbk : Option Nat) (taken : session.step (.send cbk) = some next) : Sound slack next := by
  cases stale with
  | cons packet rest =>
    have outdated : packet.flushGeneration ≠ session.adapter.flushGeneration :=
      laid.outdated packet (by simp)
    have unsent : (session.adapter.sendMediaPacket packet cbk).adapter = session.adapter ∧
        (session.adapter.sendMediaPacket packet cbk).messages = [] := by
      unfold Adapter.sendMediaPacket
      cases packet.packet with
      | none => exact ⟨rfl, rfl⟩
      | some media => simp [laid.bound, outdated]
    simp only [Session.step, laid.created, List.cons_append, unsent.1, unsent.2, sends,
      List.append_nil, Option.some.injEq] at taken
    subst taken
    refine ⟨sent, rest, fresh, readAt, rdAt, sentAt, wrAt, ?_⟩
    exact { laid with
      created := rfl
      outdated := fun packet member => laid.outdated packet (by simp [member]) }
  | nil =>
    cases fresh with
    | nil => simp [Session.step, laid.created] at taken
    | cons packet rest =>
      obtain ⟨middle, order, ⟨current, -, media, held, placed⟩, later⟩ := laid.freshChain
      have live : session.adapter.faulted = false := by simp [laid.running]
      have idle : session.adapter.flushInProgress = false := by
        cases flushing : session.adapter.flushInProgress with
        | false => rfl
        | true => simpa using (laid.flushing flushing).2
      simp only [Session.step, laid.created, List.nil_append, Adapter.sendMediaPacket, held,
        laid.bound, if_true, live, current, bne_self_eq_false, Bool.or_self, Bool.false_eq_true,
        if_false, sends, Option.some.injEq, placed.postConsumeRd laid.large] at taken
      subst taken
      refine ⟨sent ++ [(⟨middle % session.adapter.bufferSize, session.adapter.seqNumGen, cbk⟩,
        media)], [], rest, readAt, rdAt, middle, wrAt, ?_⟩
      exact
        { laid with
          bound := rfl
          queue := by simp only [laid.queue, List.map_append, List.map_cons, List.map_nil]
          outstanding := by
            simp only [laid.outstanding, List.map_append, List.map_cons, List.map_nil]
          created := rfl
          outdated := by simp
          sentChain := (chain_snoc _ _ _ _).mpr ⟨sentAt, laid.sentChain, order, rfl, placed⟩
          freshChain := later
          flushing := by simp [idle] }

theorem cancel_sound (laid : Laid slack session sent stale fresh readAt rdAt sentAt wrAt)
    (taken : session.step .cancel = some next) : Sound slack next := by
  rcases List.eq_nil_or_concat fresh with rfl | ⟨front, packet, rfl⟩
  · rcases List.eq_nil_or_concat stale with rfl | ⟨front, packet, rfl⟩
    · simp [Session.step, laid.created] at taken
    have outdated : packet.flushGeneration ≠ session.adapter.flushGeneration :=
      laid.outdated packet (by simp)
    have unsent : (session.adapter.cancelMediaPacket packet).adapter = session.adapter := by
      unfold Adapter.cancelMediaPacket
      cases packet.packet with
      | none => rfl
      | some media => simp [outdated]
    simp only [Session.step, laid.created, List.concat_eq_append, List.append_nil,
      List.getLast?_append_of_ne_nil, ne_eq, List.cons_ne_self, not_false_eq_true,
      List.getLast?_singleton, List.dropLast_concat, unsent, Option.some.injEq] at taken
    subst taken
    refine ⟨sent, front, [], readAt, rdAt, sentAt, wrAt, ?_⟩
    exact { laid with
      created := by simp
      outdated := fun packet member => laid.outdated packet (by simp [member]) }
  · rw [List.concat_eq_append] at laid
    obtain ⟨middle, before, order, current, cancelWr, media, held, -⟩ :=
      (chain_snoc _ _ _ _).mp laid.freshChain
    have live : session.adapter.faulted = false := by simp [laid.running]
    have idle : session.adapter.flushInProgress = false := by
      cases flushing : session.adapter.flushInProgress with
      | false => rfl
      | true => simpa using (laid.flushing flushing).2
    simp only [Session.step, laid.created, ← List.append_assoc, List.getLast?_concat,
      List.dropLast_concat, Adapter.cancelMediaPacket, held, live, current, cancelWr,
      bne_self_eq_false, Bool.or_self, Bool.false_eq_true, if_false, Option.some.injEq] at taken
    subst taken
    apply sound_updateSignalled
    refine ⟨sent, stale, front, readAt, rdAt, sentAt, middle, ?_⟩
    have window := laid.window
    exact
      { laid with
        created := rfl
        freshChain := before
        window := by simp only; omega
        wr := rfl
        flushing := by simp [idle] }

theorem flush_sound (laid : Laid slack session sent stale fresh readAt rdAt sentAt wrAt)
    (orderly : Orderly session .flush) (taken : session.step .flush = some next) :
    Sound slack next := by
  have live : session.adapter.faulted = false := by simp [laid.running]
  cases busy : session.adapter.busy with
  | true =>
    simp only [Session.step, Adapter.flush, live, busy, Bool.false_eq_true, if_false, if_true,
      List.length_nil, Nat.add_zero, Option.some.injEq] at taken
    subst taken
    exact ⟨sent, stale, fresh, readAt, rdAt, sentAt, wrAt, laid⟩
  | false =>
    rcases orderly with waiting | ⟨empty, distinct⟩
    · simp [busy] at waiting
    have unsent : sent = [] := by simpa [empty] using laid.queue.symm
    simp only [Session.step, Adapter.flush, live, busy, Bool.false_eq_true, if_false,
      List.length_cons, List.length_nil, Option.some.injEq] at taken
    subst taken
    have idle : session.adapter.flushInProgress = false := busy
    refine ⟨[], stale ++ fresh, [], 0, 0, 0, 0, ?_⟩
    exact
      { running := laid.running
        bound := laid.bound
        mapped := laid.mapped
        positive := laid.positive
        large := laid.large
        queue := rfl
        outstanding := by simp [laid.outstanding, unsent]
        created := by simp [laid.created]
        outdated := by simpa [laid.created] using distinct
        sentChain := rfl
        freshChain := rfl
        behind := Nat.le_refl _
        near := Nat.le_add_right _ _
        window := by simpa using laid.positive
        rd := by simp
        wr := by simp
        flushing := by simp
        flushes := by simp [laid.flushes, idle] }

theorem validRd_of_window (adapter : Adapter) (rdAt newRdAt wrAt : Nat)
    (positive : 0 < adapter.bufferSize) (large : adapter.bufferSize ≤ 2 ^ 63)
    (rd : adapter.rd = rdAt % adapter.bufferSize) (wr : adapter.wr = wrAt % adapter.bufferSize)
    (forwards : rdAt ≤ newRdAt) (bounded : newRdAt ≤ wrAt)
    (window : wrAt < rdAt + adapter.bufferSize) :
    adapter.validRd (newRdAt % adapter.bufferSize) = true := by
  have unfolded (target : Nat) (order : rdAt ≤ target) (near : target < rdAt + adapter.bufferSize) :
      u64 (target % adapter.bufferSize +
        if target % adapter.bufferSize < adapter.rd then adapter.bufferSize else 0) =
        adapter.rd + (target - rdAt) := by
    have gap := distance_eq adapter.bufferSize rdAt target positive order near
    have inside := Nat.mod_lt target positive
    have rdInside := Nat.mod_lt rdAt positive
    rw [distance, ← rd] at gap
    by_cases behind : target % adapter.bufferSize < adapter.rd
    · rw [if_neg (by omega)] at gap
      rw [if_pos behind, u64_of_lt _ (by omega)]
      omega
    · rw [if_pos (by omega)] at gap
      rw [if_neg behind, u64_of_lt _ (by omega)]
      omega
  simp only [Adapter.validRd, wr, Bool.and_eq_true, decide_eq_true_eq]
  rw [unfolded newRdAt forwards (by omega), unfolded wrAt (by omega) window]
  omega

theorem handleSendPacket_front (adapter : Adapter) (front : PacketState)
    (rest : List PacketState) (result : SendResult)
    (queue : adapter.inFlightQueue = front :: rest) (idle : adapter.flushInProgress = false)
    (valid : adapter.validRd front.postConsumeRd = true) :
    (adapter.handleSendPacket front.seqNum result).1 =
      ({ adapter with inFlightQueue := rest, rd := front.postConsumeRd }).updateSignalled := by
  have moved : ({ adapter with inFlightQueue := rest }).validRd front.postConsumeRd = true := valid
  simp only [Adapter.handleSendPacket, queue, ne_eq, not_true_eq_false, if_false]
  rw [if_neg (by simp [idle]), if_pos moved]

theorem answer_sound (laid : Laid slack session sent stale fresh readAt rdAt sentAt wrAt)
    (result : SendResult) (taken : session.step (.answer result) = some next) :
    Sound slack next := by
  cases sent with
  | nil => simp [Session.step, laid.outstanding] at taken
  | cons item rest =>
    obtain ⟨middle, order, ⟨consumed, -⟩, later⟩ := laid.sentChain
    have idle : session.adapter.flushInProgress = false := by
      cases flushing : session.adapter.flushInProgress with
      | false => rfl
      | true => simpa using (laid.flushing flushing).1
    have bounded : middle ≤ wrAt := Nat.le_trans (chain_le later) (chain_le laid.freshChain)
    have window := laid.window
    have behind := laid.behind
    have moved : session.adapter.validRd item.1.postConsumeRd = true := by
      rw [consumed]
      exact validRd_of_window session.adapter readAt middle wrAt laid.positive laid.large laid.rd
        laid.wr (Nat.le_trans behind order) bounded window
    have handled := handleSendPacket_front session.adapter item.1 (rest.map Prod.fst) result
      laid.queue idle moved
    simp only [Session.step, laid.bound, laid.outstanding, List.map_cons, handled,
      Option.some.injEq] at taken
    subst taken
    apply sound_updateSignalled
    refine ⟨rest, stale, fresh, middle, middle, sentAt, wrAt, ?_⟩
    exact
      { laid with
        bound := rfl
        queue := rfl
        outstanding := rfl
        sentChain := later
        behind := Nat.le_refl _
        near := Nat.le_add_right _ _
        window := by simp only; omega
        rd := consumed
        flushing := by simp [idle] }

-- The queue is empty during a flush, so what acknowledges it is not orderly.
theorem acknowledgeFlush_sound
    (laid : Laid slack session sent stale fresh readAt rdAt sentAt wrAt)
    (orderly : Orderly session .acknowledgeFlush)
    (taken : session.step .acknowledgeFlush = some next) : Sound slack next := by
  cases flushing : session.adapter.flushInProgress with
  | false => simp [Session.step, laid.flushes, flushing] at taken
  | true =>
    obtain ⟨rfl, rfl⟩ := laid.flushing flushing
    exact absurd laid.queue (orderly flushing)

end Steps

theorem step_sound {slack : Nat} (session : Session) (event : Event) (next : Session)
    (sound : Sound slack session) (orderly : Orderly session event)
    (taken : session.step event = some next) : Sound slack next := by
  obtain ⟨sent, stale, fresh, readAt, rdAt, sentAt, wrAt, laid⟩ := sound
  cases event with
  | create size noWrap => exact create_sound laid size noWrap orderly taken
  | send cbk => exact send_sound laid cbk taken
  | cancel => exact cancel_sound laid taken
  | flush => exact flush_sound laid orderly taken
  | answer result => exact answer_sound laid result taken
  | acknowledgeFlush => exact acknowledgeFlush_sound laid orderly taken
  | setWatermarks | setSignalCallback | signalTask =>
    obtain ⟨adapter, rfl, only⟩ := Session.step_signals rfl taken
    exact ⟨sent, stale, fresh, readAt, rdAt, sentAt, wrAt, laid.congr adapter only.core⟩

end MojoMedia.CircularBuffer
