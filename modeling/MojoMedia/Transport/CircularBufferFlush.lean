import MojoMedia.Transport.CircularBufferCases
import MojoMedia.Transport.CircularBufferRuns

set_option autoImplicit false

namespace MojoMedia.CircularBuffer

open Runs

namespace Adapter

@[simp] theorem core_fault_running (adapter : Adapter) (reason : MediaResult)
    (running : adapter.internalState = .ok) :
    (adapter.fault reason).core = adapter.cleanup.core := by
  rw [adapter.fault_running reason running, core_updateSignalled]

end Adapter

structure Unacknowledged (session : Session) : Prop where
  running : session.adapter.internalState = .ok → session.adapter.pipeBound = true
  bound : session.adapter.pipeBound = true → session.adapter.internalState = .ok ∧
    session.flushes = if session.adapter.flushInProgress then 1 else 0
  current : session.adapter.flushInProgress = false → Current session
  cleared : session.adapter.flushInProgress = true → session.adapter.inFlightQueue = [] ∧
    ∀ packet ∈ session.created, packet.flushGeneration ≠ session.adapter.flushGeneration

section Steps

variable {session next : Session}

theorem Unacknowledged.congr (unacknowledged : Unacknowledged session) (adapter : Adapter)
    (same : adapter.core = session.adapter.core) (created : List MappedPacket)
    (fewer : created ⊆ session.created) (outstanding : List (Nat × MediaPacket)) :
    Unacknowledged ⟨adapter, created, outstanding, session.flushes⟩ := by
  simp only [Adapter.core, Adapter.mk.injEq, true_and, and_true] at same
  obtain ⟨sameBound, sameFlush, sameState, -, -, -, -, -, sameGeneration, sameQueue⟩ := same
  constructor
  · simpa only [sameBound, sameState] using unacknowledged.running
  · simpa only [sameBound, sameFlush, sameState] using unacknowledged.bound
  · intro idle packet member
    rw [sameFlush] at idle
    rw [sameGeneration]
    exact unacknowledged.current idle packet (fewer member)
  · intro flushing
    rw [sameFlush] at flushing
    obtain ⟨empty, outdated⟩ := unacknowledged.cleared flushing
    simp only [sameQueue, sameGeneration]
    exact ⟨empty, fun packet member => outdated packet (fewer member)⟩

theorem Unacknowledged.fault (unacknowledged : Unacknowledged session) (queue : List PacketState)
    (reason : MediaResult) (created : List MappedPacket) (fewer : created ⊆ session.created)
    (outstanding : List (Nat × MediaPacket))
    (shorter : queue = session.adapter.inFlightQueue ∨ session.adapter.internalState = .ok) :
    Unacknowledged ⟨({ session.adapter with inFlightQueue := queue }).fault reason, created,
      outstanding, session.flushes⟩ := by
  by_cases running : session.adapter.internalState = .ok
  · have same := Adapter.core_fault_running { session.adapter with inFlightQueue := queue }
      reason running
    simp only [Adapter.core, Adapter.cleanup, Adapter.mk.injEq, true_and, and_true] at same
    obtain ⟨sameBound, sameFlush, sameState, -, -, -, -, -, sameGeneration, sameQueue⟩ := same
    constructor
    · intro running
      cases sameState.symm.trans running
    · intro bound
      cases sameBound.symm.trans bound
    · intro idle packet member
      rw [sameFlush] at idle
      rw [sameGeneration]
      exact unacknowledged.current idle packet (fewer member)
    · intro flushing
      rw [sameFlush] at flushing
      rw [sameGeneration]
      exact ⟨sameQueue, fun packet member =>
        (unacknowledged.cleared flushing).2 packet (fewer member)⟩
  · obtain rfl := shorter.resolve_right running
    rw [Adapter.fault_faulted _ reason running]
    exact unacknowledged.congr _ (Adapter.core_updateSignalled _) created fewer outstanding

theorem u32_succ_ne (generation : Nat) : MachineInt.u32 (generation + 1) ≠ generation := by
  unfold MachineInt.u32
  omega

theorem create_unacknowledged (unacknowledged : Unacknowledged session) (size : Nat)
    (noWrap : Bool) (taken : session.step (.create size noWrap) = some next) :
    Unacknowledged next := by
  rcases session.adapter.createMediaPacket_cases size noWrap {} with
    ⟨failed, same⟩ | ⟨-, idle, -, data, length, outcome⟩
  · simp only [Session.step, if_neg failed, same, Option.some.injEq] at taken
    subst taken
    exact unacknowledged
  simp only [Session.step, outcome, if_true, Option.some.injEq] at taken
  subst taken
  obtain ⟨_, _, _, same⟩ := Adapter.updateSignalled_eq
    { session.adapter with
      wr := MachineInt.u64 (session.adapter.allocStart size noWrap + size) %
        session.adapter.bufferSize }
  rw [same]
  refine ⟨unacknowledged.running, unacknowledged.bound, fun _ packet member => ?_,
    fun flushing => ?_⟩
  · rcases List.mem_append.mp member with old | new
    · exact unacknowledged.current idle packet old
    · obtain rfl := List.mem_singleton.mp new
      rfl
  · cases idle.symm.trans flushing

theorem send_unacknowledged (unacknowledged : Unacknowledged session) (cbk : Option Nat)
    (taken : session.step (.send cbk) = some next) : Unacknowledged next := by
  cases held : session.created with
  | nil => simp [Session.step, held] at taken
  | cons packet rest =>
    simp only [Session.step, held, Option.some.injEq] at taken
    subst taken
    have fewer : rest ⊆ session.created := by simp [held]
    rcases session.adapter.sendMediaPacket_cases packet cbk with
      ⟨-, ⟨-, same⟩ | ⟨-, failed⟩⟩ | ⟨media, -, -, -, generation, outcome⟩
    · rw [same]
      exact unacknowledged.congr _ rfl rest fewer _
    · rw [failed]
      exact unacknowledged.fault session.adapter.inFlightQueue _ rest fewer _ (.inl rfl)
    · rw [outcome]
      refine ⟨unacknowledged.running, unacknowledged.bound, fun idle other member => ?_,
        fun flushing => ?_⟩
      · exact unacknowledged.current idle other (fewer member)
      · -- During a flush every packet is outdated.
        have outdated := (unacknowledged.cleared flushing).2 packet (by simp [held])
        exact absurd generation outdated

theorem answer_unacknowledged (unacknowledged : Unacknowledged session) (result : SendResult)
    (taken : session.step (.answer result) = some next) : Unacknowledged next := by
  simp only [Session.step] at taken
  split at taken
  next seqNum media rest bound outstanding =>
    simp only [Option.some.injEq] at taken
    subst taken
    have running := (unacknowledged.bound bound).1
    have all := List.Subset.refl session.created
    rcases session.adapter.handleSendPacket_cases seqNum result with
      failed | ⟨front, others, queue, -, ⟨flushing, -⟩ | ⟨idle, -, moved⟩ | ⟨-, -, failed⟩⟩
    · rw [failed]
      exact unacknowledged.fault session.adapter.inFlightQueue _ _ all _ (.inl rfl)
    · have empty := (unacknowledged.cleared flushing).1
      cases queue.symm.trans empty
    · obtain ⟨_, _, _, same⟩ := Adapter.updateSignalled_eq
        { session.adapter with inFlightQueue := others, rd := front.postConsumeRd }
      rw [moved, same]
      refine ⟨unacknowledged.running, unacknowledged.bound, unacknowledged.current,
        fun flushing => ?_⟩
      cases idle.symm.trans flushing
    · rw [failed]
      exact unacknowledged.fault others _ _ all _ (.inr running)
  next => simp at taken

theorem flush_unacknowledged (unacknowledged : Unacknowledged session)
    (taken : session.step .flush = some next) : Unacknowledged next := by
  simp only [Session.step, Option.some.injEq] at taken
  subst taken
  rcases session.adapter.flush_cases with ⟨same, silent⟩ | ⟨-, idle, message, moved⟩
  · rw [same, silent]
    exact unacknowledged
  · rw [moved, message]
    have current := unacknowledged.current idle
    refine ⟨unacknowledged.running, fun bound => ?_, fun idle => ?_,
      fun _ => ⟨rfl, fun packet member => ?_⟩⟩
    · obtain ⟨running, flushes⟩ := unacknowledged.bound bound
      rw [idle] at flushes
      exact ⟨running, by simp [flushes]⟩
    · cases idle
    · rw [current packet member]
      exact (u32_succ_ne _).symm

theorem Unacknowledged.flushing (unacknowledged : Unacknowledged session)
    (bound : session.adapter.pipeBound = true) (acknowledged : 0 < session.flushes) :
    session.adapter.flushInProgress = true := by
  have flushes := (unacknowledged.bound bound).2
  by_contra idle
  rw [if_neg idle] at flushes
  omega

theorem Unacknowledged.stuck (unacknowledged : Unacknowledged session) :
    session.step .acknowledgeFlush = none := by
  simp only [Session.step, ite_eq_right_iff, Option.map_eq_none_iff, and_imp]
  intro bound acknowledged
  have flushing := unacknowledged.flushing bound acknowledged
  exact session.adapter.handleFlush_eq_none (unacknowledged.bound bound).1 flushing
    (unacknowledged.cleared flushing).1

theorem step_unacknowledged (session : Session) (event : Event) (next : Session)
    (unacknowledged : Unacknowledged session) (taken : session.step event = some next) :
    Unacknowledged next := by
  have all := List.Subset.refl session.created
  cases event with
  | create size noWrap => exact create_unacknowledged unacknowledged size noWrap taken
  | send cbk => exact send_unacknowledged unacknowledged cbk taken
  | cancel =>
    cases last : session.created.getLast? with
    | none => simp [Session.step, last] at taken
    | some packet =>
      simp only [Session.step, last, Option.some.injEq] at taken
      subst taken
      have fewer := List.dropLast_subset session.created
      rcases session.adapter.cancelMediaPacket_cases packet with ⟨-, same⟩ | ⟨-, -, moved⟩
      · rw [same]
        exact unacknowledged.congr _ rfl _ fewer _
      · obtain ⟨_, _, _, same⟩ := Adapter.updateSignalled_eq
          { session.adapter with wr := packet.cancelWr }
        rw [moved, same]
        have kept := unacknowledged.congr session.adapter rfl _ fewer session.outstanding
        exact ⟨kept.running, kept.bound, kept.current, kept.cleared⟩
  | flush => exact flush_unacknowledged unacknowledged taken
  | answer result => exact answer_unacknowledged unacknowledged result taken
  | acknowledgeFlush => cases unacknowledged.stuck.symm.trans taken
  | setWatermarks | setSignalCallback | signalTask =>
    obtain ⟨adapter, rfl, only⟩ := Session.step_signals rfl taken
    exact unacknowledged.congr adapter only.core _ all _

end Steps

def PopsQueued (session : Session) (event : Event) : Prop :=
  event = .acknowledgeFlush → session.adapter.faulted = false →
    session.adapter.flushInProgress = true → session.adapter.inFlightQueue ≠ []

def HandlesFlush (session : Session) (event : Event) : Prop :=
  event = .acknowledgeFlush ∧ session.adapter.pipeBound = true ∧ 0 < session.flushes

instance (session : Session) (event : Event) : Decidable (HandlesFlush session event) :=
  inferInstanceAs (Decidable (_ ∧ _ ∧ _))

theorem popsQueued_iff (session : Session) (event : Event)
    (unacknowledged : Unacknowledged session) :
    PopsQueued session event ↔ ¬ HandlesFlush session event := by
  constructor
  · rintro queued ⟨same, bound, acknowledged⟩
    have flushing := unacknowledged.flushing bound acknowledged
    have running := (unacknowledged.bound bound).1
    exact queued same (by simpa using running) flushing (unacknowledged.cleared flushing).1
  · intro dropped same live flushing
    have bound := unacknowledged.running (by simpa using live)
    have flushes := (unacknowledged.bound bound).2
    rw [if_pos flushing] at flushes
    exact absurd ⟨same, bound, by omega⟩ dropped

theorem pops_queued_iff (bufferSize rd wr flushGeneration seqNumGen : Nat)
    (events : List Event) :
    Meets Session.step PopsQueued (.start bufferSize rd wr flushGeneration seqNumGen) events ↔
      Meets Session.step (fun session event => ¬ HandlesFlush session event)
        (.start bufferSize rd wr flushGeneration seqNumGen) events := by
  refine meets_congr Session.step PopsQueued (fun session event => ¬ HandlesFlush session event)
    Unacknowledged popsQueued_iff (fun session event next kept _ taken =>
      step_unacknowledged session event next kept taken) _ events ?_
  constructor <;> simp [Session.start, Current]

theorem pops_queued_flushing :
    Meets Session.step PopsQueued (.start 8 0 0 0 0) [.create 5 false, .send none, .flush] :=
  (pops_queued_iff 8 0 0 0 0 [.create 5 false, .send none, .flush]).mpr (by decide)

theorem acknowledgement_pops_empty :
    ∃ session, run Session.step (.start 8 0 0 0 0) [.create 5 false, .send none, .flush] =
        some session ∧
      HandlesFlush session .acknowledgeFlush ∧ session.adapter.flushInProgress = true ∧
      session.adapter.inFlightQueue = [] ∧ session.adapter.handleFlush = none ∧
      ¬ PopsQueued session .acknowledgeFlush :=
  ⟨_, rfl, by decide, rfl, rfl, rfl, fun queued => queued rfl rfl rfl rfl⟩

end MojoMedia.CircularBuffer
