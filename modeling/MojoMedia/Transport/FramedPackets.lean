import MojoMedia.Transport.CircularBufferNoWrap
import MojoMedia.Transport.CircularBufferRuns

set_option autoImplicit false

namespace MojoMedia.CircularBuffer

open MachineInt Ring

def MediaPacket.Whole (frameSize : Nat) (packet : MediaPacket) : Prop :=
  ∀ region ∈ packet.regions, frameSize ∣ region.length

def Adapter.Aligned (frameSize : Nat) (adapter : Adapter) : Prop :=
  frameSize ∣ adapter.bufferSize ∧ frameSize ∣ adapter.wr

structure Aligned (frameSize : Nat) (session : Session) : Prop where
  adapter : session.adapter.Aligned frameSize
  created : ∀ mapped ∈ session.created, frameSize ∣ mapped.cancelWr ∧
    ∀ media, mapped.packet = some media → media.Whole frameSize
  outstanding : ∀ sent ∈ session.outstanding, sent.2.Whole frameSize

section Aligned

variable {frameSize slack : Nat} {adapter other : Adapter} {session next : Session}

theorem Adapter.Aligned.congr (aligned : adapter.Aligned frameSize)
    (same : other.pointers = adapter.pointers) : other.Aligned frameSize := by
  simp only [pointers, Prod.mk.injEq] at same
  obtain ⟨sameSize, -, sameWr, -⟩ := same
  exact ⟨sameSize ▸ aligned.1, sameWr ▸ aligned.2⟩

theorem Adapter.Aligned.updateSignalled (aligned : adapter.Aligned frameSize) :
    adapter.updateSignalled.Aligned frameSize :=
  aligned.congr adapter.pointers_updateSignalled

theorem Adapter.Aligned.fault (aligned : adapter.Aligned frameSize) (reason : MediaResult) :
    (adapter.fault reason).Aligned frameSize := by
  by_cases running : adapter.internalState = .ok
  · rw [adapter.fault_running reason running]
    exact Aligned.updateSignalled ⟨aligned.1, Nat.dvd_zero _⟩
  · rw [adapter.fault_faulted reason running]
    exact aligned.updateSignalled

theorem whole_allocRegions {bufferSize start size : Nat} (large : bufferSize ≤ 2 ^ 63)
    (small : size < bufferSize) (inside : start < bufferSize) (buffer : frameSize ∣ bufferSize)
    (first : frameSize ∣ start) (whole : frameSize ∣ size) :
    (Adapter.allocRegions bufferSize start (start + size) size).Whole frameSize := by
  by_cases wraps : bufferSize < start + size
  · rw [allocRegions_wraps _ _ _ large small inside wraps]
    have head : frameSize ∣ bufferSize - start := Nat.dvd_sub buffer first
    intro region member
    simp only [MediaPacket.regions, List.mem_cons, List.not_mem_nil, or_false] at member
    rcases member with rfl | rfl
    · exact head
    · exact Nat.dvd_sub whole head
  · rw [allocRegions_fits _ _ _ (Nat.le_of_not_lt wraps)]
    intro region member
    simp only [MediaPacket.regions, List.mem_cons, List.not_mem_nil, or_false] at member
    subst member
    exact whole

theorem create_aligned (aligned : Aligned frameSize session) (sound : Sound slack session)
    (size : Nat) (noWrap : Bool) (whole : frameSize ∣ size)
    (taken : session.step (.create size noWrap) = some next) : Aligned frameSize next := by
  obtain ⟨sent, stale, fresh, readAt, rdAt, sentAt, wrAt, laid⟩ := sound
  rcases session.adapter.createMediaPacket_cases size noWrap {} with
    ⟨failed, same⟩ | ⟨-, -, short, data, length, outcome⟩
  · simp only [Session.step, if_neg failed, same, Option.some.injEq] at taken
    subst taken
    exact aligned
  simp only [Session.step, outcome, if_true, Option.some.injEq] at taken
  subst taken
  have large := laid.large
  have positive := laid.positive
  rw [subU64_of_le _ _ (by omega) positive] at short
  have start := session.adapter.allocStart_lt size noWrap (by
    rw [laid.wr]
    exact Nat.mod_lt _ positive)
  have first : frameSize ∣ session.adapter.allocStart size noWrap := by
    unfold Adapter.allocStart
    split
    · exact Nat.dvd_zero _
    · exact aligned.adapter.2
  rw [u64_of_lt _ (by omega)]
  constructor
  case adapter =>
    apply Adapter.Aligned.updateSignalled
    refine ⟨aligned.adapter.1, ?_⟩
    exact (Nat.dvd_mod_iff aligned.adapter.1).mpr (Nat.dvd_add first whole)
  case created =>
    intro mapped member
    rcases List.mem_append.mp member with old | new
    · exact aligned.created mapped old
    · obtain rfl := List.mem_singleton.mp new
      refine ⟨aligned.adapter.2, ?_⟩
      intro media held
      obtain rfl := Option.some.inj held
      exact whole_allocRegions large (by omega) start aligned.adapter.1 first whole
  case outstanding => exact aligned.outstanding

theorem send_aligned (aligned : Aligned frameSize session) (cbk : Option Nat)
    (taken : session.step (.send cbk) = some next) : Aligned frameSize next := by
  cases held : session.created with
  | nil => simp [Session.step, held] at taken
  | cons packet rest =>
    simp only [Session.step, held, Option.some.injEq] at taken
    subst taken
    have created := aligned.created
    rw [held] at created
    have later := fun other member => created other (List.mem_cons_of_mem packet member)
    rcases session.adapter.sendMediaPacket_cases packet cbk with
      ⟨unsent, ⟨-, same⟩ | ⟨-, failed⟩⟩ | ⟨media, filled, -, -, -, outcome⟩
    · rw [unsent, same]
      exact ⟨aligned.adapter, later, by simpa [sends] using aligned.outstanding⟩
    · rw [unsent, failed]
      exact ⟨aligned.adapter.fault _, later, by simpa [sends] using aligned.outstanding⟩
    · rw [outcome]
      refine ⟨aligned.adapter, later, ?_⟩
      intro sent member
      rcases List.mem_append.mp member with old | new
      · exact aligned.outstanding sent old
      · simp only [sends, List.mem_singleton] at new
        rw [new]
        exact (created packet List.mem_cons_self).2 media filled

theorem answer_aligned (aligned : Aligned frameSize session) (result : SendResult)
    (taken : session.step (.answer result) = some next) : Aligned frameSize next := by
  simp only [Session.step] at taken
  split at taken
  next seqNum media rest bound outstanding =>
    simp only [Option.some.injEq] at taken
    subst taken
    have others := aligned.outstanding
    rw [outstanding] at others
    refine ⟨?_, aligned.created, fun sent member => others sent (by simp [member])⟩
    rcases session.adapter.handleSendPacket_cases seqNum result with
      failed | ⟨front, queued, queue, -, moved⟩
    · rw [failed]
      exact aligned.adapter.fault _
    · rcases moved with ⟨-, moved⟩ | ⟨-, -, moved⟩ | ⟨-, -, moved⟩
      · rw [moved]
        exact aligned.adapter
      · rw [moved]
        exact Adapter.Aligned.updateSignalled aligned.adapter
      · rw [moved]
        refine Adapter.Aligned.fault ?_ _
        exact aligned.adapter
  next => cases taken

theorem step_aligned (aligned : Aligned frameSize session) (sound : Sound slack session)
    (event : Event) (whole : ∀ size noWrap, event = .create size noWrap → frameSize ∣ size)
    (taken : session.step event = some next) : Aligned frameSize next := by
  cases event with
  | create size noWrap => exact create_aligned aligned sound size noWrap (whole _ _ rfl) taken
  | send cbk => exact send_aligned aligned cbk taken
  | cancel =>
    cases last : session.created.getLast? with
    | none => simp [Session.step, last] at taken
    | some packet =>
      simp only [Session.step, last, Option.some.injEq] at taken
      subst taken
      have created := aligned.created
      refine ⟨?_, fun other member => created other (List.dropLast_subset _ member),
        aligned.outstanding⟩
      rcases session.adapter.cancelMediaPacket_cases packet with ⟨-, same⟩ | ⟨-, -, moved⟩
      · rw [same]
        exact aligned.adapter
      · rw [moved]
        apply Adapter.Aligned.updateSignalled
        exact ⟨aligned.adapter.1, (created packet (List.mem_of_getLast? last)).1⟩
  | flush =>
    simp only [Session.step, Option.some.injEq] at taken
    subst taken
    refine ⟨?_, aligned.created, aligned.outstanding⟩
    rcases session.adapter.flush_cases with ⟨same, -⟩ | ⟨-, -, -, moved⟩
    · rw [same]
      exact aligned.adapter
    · rw [moved]
      exact ⟨aligned.adapter.1, Nat.dvd_zero _⟩
  | answer result => exact answer_aligned aligned result taken
  | acknowledgeFlush =>
    simp only [Session.step, Option.ite_none_right_eq_some, Option.map_eq_some_iff] at taken
    obtain ⟨-, adapter, handled, rfl⟩ := taken
    refine ⟨?_, aligned.created, aligned.outstanding⟩
    rcases session.adapter.handleFlush_cases handled with
      ⟨-, rfl⟩ | ⟨-, -, rfl⟩ | ⟨front, rest, -, -, -, rfl⟩
    · exact aligned.adapter
    · exact aligned.adapter.fault _
    · exact Adapter.Aligned.updateSignalled ⟨aligned.adapter.1, Nat.dvd_zero _⟩
  | setWatermarks | setSignalCallback | signalTask =>
    obtain ⟨adapter, rfl, only⟩ := Session.step_signals rfl taken
    exact ⟨aligned.adapter.congr only.pointers, aligned.created, aligned.outstanding⟩

end Aligned

def Session.current (session : Session) : List MediaPacket :=
  session.outstanding.map Prod.snd ++
    (session.created.filter fun mapped =>
      mapped.flushGeneration = session.adapter.flushGeneration).filterMap MappedPacket.packet

theorem current_chain {slack : Nat} {session : Session} (sound : Sound slack session) :
    ∃ rdAt wrAt, wrAt < rdAt + session.adapter.bufferSize ∧
      Chain (Placed session.adapter.bufferSize) rdAt session.current wrAt := by
  obtain ⟨sent, stale, fresh, readAt, rdAt, sentAt, wrAt, laid⟩ := sound
  refine ⟨rdAt, wrAt, laid.fits, ?_⟩
  have none : (stale.filter fun mapped =>
      mapped.flushGeneration = session.adapter.flushGeneration) = [] := by
    rw [List.filter_eq_nil_iff]
    intro mapped member
    simpa using laid.outdated mapped member
  have all : (fresh.filter fun mapped =>
      mapped.flushGeneration = session.adapter.flushGeneration) = fresh := by
    rw [List.filter_eq_self]
    intro mapped member
    obtain ⟨_, _, -, -, -, generation, -⟩ := chain_mem laid.freshChain mapped member
    simpa using generation
  rw [Session.current, laid.created, List.filter_append, none, all, List.nil_append]
  exact laid.chain

theorem Sound.large {slack : Nat} {session : Session} (sound : Sound slack session) :
    session.adapter.bufferSize ≤ 2 ^ 63 := by
  obtain ⟨sent, stale, fresh, readAt, rdAt, sentAt, wrAt, laid⟩ := sound
  exact laid.large

theorem Sound.running {slack : Nat} {session : Session} (sound : Sound slack session) :
    session.adapter.faulted = false := by
  obtain ⟨sent, stale, fresh, readAt, rdAt, sentAt, wrAt, laid⟩ := sound
  simpa using laid.running

theorem Sound.pipeBound {slack : Nat} {session : Session} (sound : Sound slack session) :
    session.adapter.pipeBound = true := by
  obtain ⟨sent, stale, fresh, readAt, rdAt, sentAt, wrAt, laid⟩ := sound
  exact laid.bound

theorem Placed.pieces {bufferSize before after : Nat} {packet : MediaPacket}
    (placed : Placed bufferSize packet before after) (large : bufferSize ≤ 2 ^ 63) :
    ∃ offset size, size < bufferSize ∧ offset < bufferSize ∧
      ((offset + size ≤ bufferSize ∧ packet = ⟨⟨offset, size⟩, []⟩) ∨
        (bufferSize < offset + size ∧
          packet = ⟨⟨offset, bufferSize - offset⟩, [⟨0, size - (bufferSize - offset)⟩]⟩)) := by
  obtain ⟨start, size, -, -, small, rfl⟩ := placed
  have inside : start % bufferSize < bufferSize := Nat.mod_lt _ (by omega)
  refine ⟨start % bufferSize, size, small, inside, ?_⟩
  by_cases wraps : bufferSize < start % bufferSize + size
  · exact .inr ⟨wraps, allocRegions_wraps _ _ _ large small inside wraps⟩
  · have fits := Nat.le_of_not_lt wraps
    exact .inl ⟨fits, allocRegions_fits _ _ _ fits⟩

theorem current_placed {slack : Nat} {session : Session} (sound : Sound slack session)
    {packet : MediaPacket}
    (member : packet ∈ session.current) :
    ∃ before after, Placed session.adapter.bufferSize packet before after := by
  obtain ⟨rdAt, wrAt, -, chain⟩ := current_chain sound
  obtain ⟨before, after, -, -, -, placed⟩ := chain_mem chain packet member
  exact ⟨before, after, placed⟩

theorem current_apart {slack : Nat} {session : Session} (sound : Sound slack session) :
    session.current.Pairwise MediaPacket.Apart := by
  obtain ⟨rdAt, wrAt, window, chain⟩ := current_chain sound
  exact apart_of_chain sound.large window chain

def Event.Own : Event → Prop
  | .create _ _ | .cancel | .setWatermarks _ _ | .setSignalCallback _ | .signalTask => True
  | .send _ | .flush | .answer _ | .acknowledgeFlush => False

theorem Session.step_own {session next : Session} {event : Event} (own : event.Own)
    (taken : session.step event = some next) :
    next.outstanding = session.outstanding ∧ next.flushes = session.flushes := by
  cases event with
  | create size noWrap =>
    simp only [Session.step] at taken
    split at taken
    · obtain rfl := Option.some.inj taken
      exact ⟨rfl, rfl⟩
    · obtain rfl := Option.some.inj taken
      exact ⟨rfl, rfl⟩
  | cancel =>
    simp only [Session.step] at taken
    split at taken
    next => cases taken
    next =>
      obtain rfl := Option.some.inj taken
      exact ⟨rfl, rfl⟩
  | setWatermarks | setSignalCallback | signalTask =>
    obtain ⟨adapter, rfl, -⟩ := Session.step_signals rfl taken
    exact ⟨rfl, rfl⟩
  | send | flush | answer | acknowledgeFlush => exact own.elim

structure Framed (frameSize bufferSize slack : Nat) (session : Session) : Prop where
  sound : Sound slack session
  inside : InBuffer bufferSize bufferSize session
  aligned : Aligned frameSize session

theorem Framed.step {frameSize bufferSize slack : Nat} {session next : Session}
    (framed : Framed frameSize bufferSize slack session) (event : Event)
    (orderly : Orderly session event)
    (whole : ∀ size noWrap, event = .create size noWrap → frameSize ∣ size)
    (taken : session.step event = some next) : Framed frameSize bufferSize slack next := by
  exact ⟨step_sound session event next framed.sound orderly taken,
    step_inBuffer session event next framed.inside taken,
    step_aligned framed.aligned framed.sound event whole taken⟩

end MojoMedia.CircularBuffer
