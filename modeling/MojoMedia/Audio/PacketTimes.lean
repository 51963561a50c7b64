import MojoMedia.Audio.AdmittedPackets
import MojoMedia.Shared.Runs

set_option autoImplicit false

namespace MojoMedia.Audio

open Mixers Runs

def kMaxBufferLen : UInt64 := 0x3FFFFFFFFFFFFFFF

namespace AudioPipe

def init (self : AudioPipe) : AudioPipe := { self with bound := true }

def setBuffer (self : AudioPipe) (size : UInt64) (mapped : Bool) : AudioPipe :=
  if self.buffer.isSome ∨ size = 0 ∨ kMaxBufferLen < size ∨ mapped = false then self.reset
  else { self with buffer := some size }

def onFlushRequested (self : AudioPipe) : AudioPipe := { self with nextPts := none }

def synthesizedPts (self : AudioPipe) : Int64 := self.nextPts.getD 0

end AudioPipe

structure PipeSession where
  owner : PipeOwner
  pipe : AudioPipe := {}
  sent : List AudioPacketRef := []

namespace PipeSession

inductive Event where
  | configure (owner : PipeOwner)
  | connectionError
  | setBuffer (size : UInt64) (mapped : Bool)
  | sendPacket (packet : MediaPacket)
  | flush (answer : Bool)

def sendPacket (session : PipeSession) (packet : MediaPacket) :
    Except PacketError AudioPacketRef × AudioPipe :=
  session.pipe.sendPacket session.owner packet

def flush (session : PipeSession) (answer : Bool) : PipeSession :=
  match session.pipe.buffer with
  | none => { session with pipe := session.pipe.reset }
  | some _ =>
    let pipe := session.pipe.onFlushRequested
    { session with pipe := if answer then pipe else pipe.reset, sent := [] }

def step (session : PipeSession) (event : Event) : Option PipeSession :=
  match event with
  | .configure owner =>
    if session.pipe.bound then none else some { session with owner, pipe := session.pipe.init }
  | .connectionError =>
    if session.pipe.bound then some { session with pipe := session.pipe.reset } else none
  | .setBuffer size mapped =>
    if session.pipe.bound then some { session with pipe := session.pipe.setBuffer size mapped }
    else none
  | .sendPacket packet =>
    if session.pipe.bound then
      match session.sendPacket packet with
      | (.ok ref, next) => some { session with pipe := next, sent := ref :: session.sent }
      | (.error _, next) => some { session with pipe := next }
    else none
  | .flush answer => if session.pipe.bound then some (session.flush answer) else none

def lastEnd (session : PipeSession) : Int64 :=
  (session.sent.head?.map AudioPacketRef.endPts).getD 0

end PipeSession

structure AudioPacketRef.Timed (frames : Nat) (ref : AudioPacketRef) : Prop where
  duration : ref.endPts.toInt - ref.startPts.toInt = ((frames * 2 ^ ptsFractionalBits : Nat) : Int)
  ordered : ref.startPts ≤ ref.endPts
  inRange : ref.startPts.toInt + ((frames * 2 ^ ptsFractionalBits : Nat) : Int) < 2 ^ 63

namespace PipeSession

structure Continues (session : PipeSession) (packet : MediaPacket) : Prop where
  follows : ∀ ref next, session.sendPacket packet = (.ok ref, next) →
    packet.pts = kNoTimestamp → ref.startPts = session.lastEnd
  timed : ∀ ref next, session.sendPacket packet = (.ok ref, next) →
    ref.Timed (packet.frames session.owner.bytesPerFrame)
  kept : ∀ failed next, session.sendPacket packet = (.error failed, next) →
    next.synthesizedPts = session.pipe.synthesizedPts

def TimesHold (session : PipeSession) (event : Event) : Prop :=
  ∀ packet, event = .sendPacket packet → session.Continues packet

def Countable (session : PipeSession) (packet : MediaPacket) : Prop :=
  packet.frames session.owner.bytesPerFrame < 2 ^ 32 ∧
    ∀ start, session.pipe.startPts session.owner packet.pts = some start →
      start.toInt + ((packet.frames session.owner.bytesPerFrame * 2 ^ ptsFractionalBits : Nat) :
        Int) < 2 ^ 63

def EndsInRange (session : PipeSession) (event : Event) : Prop :=
  ∀ packet, event = .sendPacket packet → (∃ ref, (session.sendPacket packet).1 = .ok ref) →
    session.Countable packet

end PipeSession

section Counting

variable {frameSize : UInt32}

theorem countFrames_total (framed : frameSize ≠ 0) (payload : List MediaPacketRegion)
    (index : Nat) (count total : UInt32) (out : List AudioRegion)
    (accepted : countFrames frameSize index count payload = .ok (out, total)) :
    total.toNat =
      (count.toNat + (payload.map (MediaPacketRegion.frames frameSize)).sum) % 2 ^ 32 := by
  induction payload generalizing index count out with
  | nil =>
    obtain ⟨-, rfl⟩ := Prod.mk.inj (Except.ok.inj accepted)
    simp [Nat.mod_eq_of_lt count.toNat_lt]
  | cons region rest ih =>
    obtain ⟨next, tail, counted, -, -, later, -⟩ := countFrames_cons framed accepted
    rw [ih (index + 1) next tail later, counted, List.map_cons, List.sum_cons, Nat.mod_add_mod,
      Nat.add_assoc]

end Counting

theorem sendPacket_accepted {pipe next : AudioPipe} {owner : PipeOwner} {packet : MediaPacket}
    {ref : AudioPacketRef} (accepted : pipe.sendPacket owner packet = (.ok ref, next)) :
    ∃ (total : UInt32) (start : Int64), total.toNat = packet.frames owner.bytesPerFrame % 2 ^ 32 ∧
      pipe.startPts owner packet.pts = some start ∧ ref.startPts = start ∧
      ref.endPts = start + Int64.ofNat (total.toNat * 2 ^ ptsFractionalBits) ∧
      next = { pipe with nextPts := some ref.endPts } := by
  cases mapped : pipe.buffer with
  | none => simp [AudioPipe.sendPacket, AudioPipe.accept, mapped] at accepted
  | some size =>
    obtain ⟨checked, out, total, start, counted, started, rfl⟩ := sendPacket_ok mapped accepted
    let nextPts := start + Int64.ofNat (total.toNat * 2 ^ ptsFractionalBits)
    have answer : pipe.sendPacket owner packet =
        (.ok { regions := out, startPts := start, endPts := nextPts },
          { pipe with nextPts := some nextPts }) := by
      simp only [AudioPipe.sendPacket, AudioPipe.accept, mapped, checked,
        AudioPipe.onPacketReceived, counted, started, bind, Except.bind, nextPts]
    have sum := countFrames_total owner.framed packet.regions 0 0 total out counted
    rw [UInt32.toNat_zero, Nat.zero_add] at sum
    refine ⟨total, start, sum, started, rfl, rfl, ?_⟩
    rw [(Prod.mk.inj (accepted.symm.trans answer)).2, mapped]

theorem sendPacket_rejected {pipe next : AudioPipe} {owner : PipeOwner} {packet : MediaPacket}
    {failed : PacketError} (rejected : pipe.sendPacket owner packet = (.error failed, next)) :
    next = pipe.reset := by
  simp only [AudioPipe.sendPacket] at rejected
  split at rejected
  next => exact (Prod.mk.inj rejected).2.symm
  next => cases rejected

theorem timed_iff (ref : AudioPacketRef) (total : UInt32) (frames : Nat)
    (counted : total.toNat = frames % 2 ^ 32)
    (ended : ref.endPts = ref.startPts + Int64.ofNat (total.toNat * 2 ^ ptsFractionalBits)) :
    ref.Timed frames ↔ frames < 2 ^ 32 ∧
      ref.startPts.toInt + ((frames * 2 ^ ptsFractionalBits : Nat) : Int) < 2 ^ 63 := by
  have exact := endPts_toInt ref.startPts total
  rw [← ended] at exact
  have bits : ptsFractionalBits = 12 := rfl
  constructor
  · rintro ⟨duration, -, inRange⟩
    refine ⟨?_, inRange⟩
    rw [bits] at duration exact inRange
    omega
  · rintro ⟨few, inRange⟩
    rw [Nat.mod_eq_of_lt few] at counted
    rw [counted] at exact
    have duration := exact.mpr inRange
    refine ⟨duration, ?_, inRange⟩
    rw [Int64.le_iff_toInt_le]
    omega

namespace PipeSession

def Synced (session : PipeSession) : Prop :=
  session.pipe.nextPts = session.sent.head?.map AudioPacketRef.endPts

theorem Synced.synthesized {session : PipeSession} (synced : session.Synced) :
    session.pipe.synthesizedPts = session.lastEnd := by
  rw [AudioPipe.synthesizedPts, synced, lastEnd]

theorem setBuffer_nextPts (pipe : AudioPipe) (size : UInt64) (mapped : Bool) :
    (pipe.setBuffer size mapped).nextPts = pipe.nextPts := by
  unfold AudioPipe.setBuffer
  split <;> rfl

theorem flush_synced (session : PipeSession) (answer : Bool) (synced : session.Synced) :
    (session.flush answer).Synced := by
  cases mapped : session.pipe.buffer with
  | none =>
    simp only [flush, mapped]
    exact synced
  | some size => cases answer <;> simp [flush, mapped, Synced, AudioPipe.onFlushRequested,
      AudioPipe.reset]

theorem step_synced (session : PipeSession) (event : Event) (next : PipeSession)
    (synced : session.Synced) (taken : session.step event = some next) : next.Synced := by
  cases event with
  | configure owner =>
    simp only [step, Option.ite_none_left_eq_some, Option.some.injEq] at taken
    obtain ⟨-, rfl⟩ := taken
    exact synced
  | connectionError =>
    simp only [step, Option.ite_none_right_eq_some, Option.some.injEq] at taken
    obtain ⟨-, rfl⟩ := taken
    exact synced
  | setBuffer size mapped =>
    simp only [step, Option.ite_none_right_eq_some, Option.some.injEq] at taken
    obtain ⟨-, rfl⟩ := taken
    exact (setBuffer_nextPts session.pipe size mapped).trans synced
  | sendPacket packet =>
    simp only [step, Option.ite_none_right_eq_some] at taken
    obtain ⟨-, sent⟩ := taken
    split at sent
    next ref after accepted =>
      obtain rfl := Option.some.inj sent
      obtain ⟨total, start, -, -, -, -, rfl⟩ := sendPacket_accepted accepted
      rfl
    next failed after rejected =>
      obtain rfl := Option.some.inj sent
      obtain rfl := sendPacket_rejected rejected
      exact synced
  | flush answer =>
    simp only [step, Option.ite_none_right_eq_some, Option.some.injEq] at taken
    obtain ⟨-, rfl⟩ := taken
    exact flush_synced session answer synced

theorem continues_iff (session : PipeSession) (packet : MediaPacket) (synced : session.Synced) :
    session.Continues packet ↔
      ((∃ ref, (session.sendPacket packet).1 = .ok ref) → session.Countable packet) := by
  rcases answer : session.sendPacket packet with ⟨failed | ref, next⟩
  · have kept : next.synthesizedPts = session.pipe.synthesizedPts := by
      obtain rfl := sendPacket_rejected answer
      rfl
    refine iff_of_true ⟨?_, ?_, ?_⟩ (by simp)
    · simp [answer]
    · simp [answer]
    · intro other after same
      obtain ⟨-, rfl⟩ := Prod.mk.inj (answer.symm.trans same)
      exact kept
  · obtain ⟨total, start, counted, started, rfl, ended, -⟩ := sendPacket_accepted answer
    have timed := timed_iff ref total (packet.frames session.owner.bytesPerFrame) counted ended
    have countable : session.Countable packet ↔
        ref.Timed (packet.frames session.owner.bytesPerFrame) := by
      simp [timed, Countable, started]
    simp only [Except.ok.injEq, exists_eq', forall_const, countable]
    constructor
    · exact fun continues => continues.timed ref next answer
    · intro holds
      refine ⟨?_, ?_, by simp [answer]⟩
      · intro other after same untimed
        obtain rfl := Except.ok.inj (Prod.mk.inj (answer.symm.trans same)).1
        rw [AudioPipe.startPts, if_neg (not_not.mpr untimed)] at started
        rw [← synced.synthesized, AudioPipe.synthesizedPts, Option.some.inj started]
      · intro other after same
        obtain rfl := Except.ok.inj (Prod.mk.inj (answer.symm.trans same)).1
        exact holds

theorem timesHold_iff (session : PipeSession) (event : Event) (synced : session.Synced) :
    session.TimesHold event ↔ session.EndsInRange event := by
  constructor
  · intro holds packet sent
    exact (continues_iff session packet synced).mp (holds packet sent)
  · intro inRange packet sent
    exact (continues_iff session packet synced).mpr (inRange packet sent)

-- The times are right in every step of a run exactly when the frames of each accepted packet can
-- be counted and its end does not overflow. The start of a packet without a timestamp, and what a
-- rejected packet leaves, are right in every run.
theorem times_hold_iff_ends_in_range (owner : PipeOwner) (events : List Event) :
    Meets step TimesHold { owner } events ↔ Meets step EndsInRange { owner } events :=
  meets_congr step TimesHold EndsInRange Synced timesHold_iff
    (fun session event next synced _ taken => step_synced session event next synced taken)
    { owner } events rfl

-- One frame for each tick of media time. The last timestamp that can be transformed leaves no
-- room for a frame, and the packet after it starts at the beginning of time.
theorem end_of_packet_wraps :
    let owner : PipeOwner := ⟨2, ⟨4096, 1⟩, by decide⟩
    let events : List Event := [.setBuffer 8 true,
      .sendPacket { pts := 2251799813685247, payload := some ⟨0, 2⟩ },
      .sendPacket { payload := some ⟨0, 2⟩ }]
    (run step { owner } events).map PipeSession.sent =
        some [⟨[⟨0, 4096⟩], -9223372036854775808, -9223372036854771712⟩,
          ⟨[⟨0, 4096⟩], 9223372036854771712, -9223372036854775808⟩] ∧
      ¬ Meets step TimesHold { owner } events := by
  refine ⟨by decide +kernel, ?_⟩
  rintro ⟨-, later⟩
  have first := (later _ rfl).1 _ rfl
  have timed := first.timed ⟨[⟨0, 4096⟩], 9223372036854771712, -9223372036854775808⟩
    { buffer := some 8, nextPts := some (-9223372036854775808) } (by decide +kernel)
  exact absurd timed.ordered (by decide)

end PipeSession

end MojoMedia.Audio
