import MojoMedia.Audio.PacketRegions

set_option autoImplicit false

-- Packets come from a client that is not trusted.
namespace MojoMedia.Common

open Audio

structure MediaPipeBase where
  bound : Bool := true
  buffer : Option UInt64 := none
  deriving Repr, DecidableEq

structure MediaPacketState where
  packet : MediaPacket
  buffer : UInt64
  cbk : Nat
  deriving Repr, DecidableEq

-- The loop of `SendPacket`. `r` is the payload at first, and is moved after the exit test.
-- The total length is not read by the source, and is left out.
def checkRegion (size : UInt64) (extraPayload : List (Option MediaPacketRegion)) (i : Nat)
    (r : Option MediaPacketRegion) : Except PacketError Unit :=
  match r with
  | none => .error (.missingRegion i)
  | some region =>
    if size < region.offset ∨ size - region.offset < region.length then .error (.outOfRange i)
    else if more : i < extraPayload.length then
      checkRegion size extraPayload (i + 1) (extraPayload.get ⟨i, more⟩)
    else .ok ()
termination_by extraPayload.length - i

namespace MediaPipeBase

def reset (pipe : MediaPipeBase) : MediaPipeBase := { pipe with bound := false, buffer := none }

def sendPacket (pipe : MediaPipeBase) (packet : MediaPacket) (cbk : Nat) :
    Except PacketError MediaPacketState × MediaPipeBase :=
  match pipe.buffer with
  | none => (.error .noBuffer, pipe.reset)
  | some size =>
    match checkRegion size (packet.extraPayload.getD []) 0 packet.payload with
    | .error failed => (.error failed, pipe.reset)
    | .ok () => (.ok { packet, buffer := size, cbk }, pipe)

end MediaPipeBase

theorem checkRegion_eq (size : UInt64) (extraPayload : List (Option MediaPacketRegion)) (i : Nat)
    (r : Option MediaPacketRegion) :
    checkRegion size extraPayload i r = checkRegions size i (r :: extraPayload.drop i) := by
  fun_induction checkRegion size extraPayload i r with
  | case1 i => rfl
  | case2 i region outside =>
    rw [checkRegions, if_pos outside]
  | case3 i region inside more ih =>
    rw [checkRegions, if_neg inside, ih, List.drop_eq_getElem_cons more]
    rfl
  | case4 i region inside last =>
    rw [checkRegions, if_neg inside, List.drop_eq_nil_of_le (Nat.not_lt.mp last)]
    rfl

def Inside (size : UInt64) (pointer : Option MediaPacketRegion) : Prop :=
  ∃ region, pointer = some region ∧ region.offset.toNat + region.length.toNat ≤ size.toNat

theorem outside_iff (size : UInt64) (region : MediaPacketRegion) :
    (size < region.offset ∨ size - region.offset < region.length) ↔
      ¬ Inside size (some region) := by
  have exact : Inside size (some region) ↔
      region.offset.toNat + region.length.toNat ≤ size.toNat := by
    simp [Inside]
  rw [exact, UInt64.lt_iff_toNat_lt, UInt64.lt_iff_toNat_lt]
  by_cases start : region.offset.toNat ≤ size.toNat
  · rw [UInt64.toNat_sub_of_le _ _ (UInt64.le_iff_toNat_le.mpr start)]
    omega
  · omega

def regionError (index : Nat) : Option MediaPacketRegion → PacketError
  | none => .missingRegion index
  | some _ => .outOfRange index

theorem checkRegions_ok_iff (size : UInt64) (index : Nat)
    (pointers : List (Option MediaPacketRegion)) :
    checkRegions size index pointers = .ok () ↔ ∀ pointer ∈ pointers, Inside size pointer := by
  induction pointers generalizing index with
  | nil => simp [checkRegions]
  | cons pointer rest ih =>
    rw [List.forall_mem_cons]
    cases pointer with
    | none => simp [checkRegions, Inside]
    | some region =>
      rw [checkRegions]
      by_cases outside : size < region.offset ∨ size - region.offset < region.length
      · have missed := (outside_iff size region).mp outside
        simp [if_pos outside, missed]
      · have inside : Inside size (some region) := by rwa [outside_iff, not_not] at outside
        rw [if_neg outside, ih (index + 1), and_iff_right inside]

theorem checkRegions_error (size : UInt64) (index : Nat)
    (pointers : List (Option MediaPacketRegion)) (failed : PacketError)
    (rejected : checkRegions size index pointers = .error failed) :
    ∃ before pointer after, pointers = before ++ pointer :: after ∧
      (∀ earlier ∈ before, Inside size earlier) ∧ ¬ Inside size pointer ∧
      failed = regionError (index + before.length) pointer := by
  induction pointers generalizing index with
  | nil => cases rejected
  | cons pointer rest ih =>
    cases pointer with
    | none =>
      refine ⟨[], none, rest, rfl, by simp, by simp [Inside], ?_⟩
      exact (Except.error.inj rejected).symm
    | some region =>
      rw [checkRegions] at rejected
      split at rejected
      next outside =>
        refine ⟨[], some region, rest, rfl, by simp, (outside_iff size region).mp outside, ?_⟩
        exact (Except.error.inj rejected).symm
      next inside =>
        obtain ⟨before, pointer, after, rfl, earlier, bad, named⟩ := ih (index + 1) rejected
        rw [outside_iff, not_not] at inside
        refine ⟨some region :: before, pointer, after, rfl, ?_, bad, ?_⟩
        · exact List.forall_mem_cons.mpr ⟨inside, earlier⟩
        · rw [named, List.length_cons]
          congr 1
          omega

namespace MediaPipeBase

def Admits (pipe : MediaPipeBase) (packet : MediaPacket) : Prop :=
  ∃ size, pipe.buffer = some size ∧ ∀ pointer ∈ packet.regionPtrs, Inside size pointer

theorem sendPacket_mapped (pipe : MediaPipeBase) (packet : MediaPacket) (cbk : Nat) (size : UInt64)
    (mapped : pipe.buffer = some size) :
    pipe.sendPacket packet cbk =
      match checkRegions size 0 packet.regionPtrs with
      | .error failed => (.error failed, pipe.reset)
      | .ok () => (.ok { packet, buffer := size, cbk }, pipe) := by
  unfold sendPacket
  rw [mapped]
  simp only [checkRegion_eq]
  rfl

theorem sendPacket_admitted (pipe : MediaPipeBase) (packet : MediaPacket) (cbk : Nat)
    (size : UInt64) (mapped : pipe.buffer = some size)
    (inside : ∀ pointer ∈ packet.regionPtrs, Inside size pointer) :
    pipe.sendPacket packet cbk = (.ok { packet, buffer := size, cbk }, pipe) := by
  rw [pipe.sendPacket_mapped packet cbk size mapped, (checkRegions_ok_iff size 0 _).mpr inside]

theorem sendPacket_refused (pipe : MediaPipeBase) (packet : MediaPacket) (cbk : Nat)
    (refused : ¬ pipe.Admits packet) :
    ∃ failed, pipe.sendPacket packet cbk = (.error failed, pipe.reset) := by
  cases mapped : pipe.buffer with
  | none =>
    refine ⟨.noBuffer, ?_⟩
    rw [sendPacket, mapped]
  | some size =>
    rw [pipe.sendPacket_mapped packet cbk size mapped]
    cases checked : checkRegions size 0 packet.regionPtrs with
    | error failed => exact ⟨failed, rfl⟩
    | ok done =>
      have inside := (checkRegions_ok_iff size 0 packet.regionPtrs).mp checked
      exact absurd ⟨size, mapped, inside⟩ refused

theorem sendPacket_error (pipe : MediaPipeBase) (packet : MediaPacket) (cbk : Nat) (size : UInt64)
    (mapped : pipe.buffer = some size) (failed : PacketError)
    (refused : (pipe.sendPacket packet cbk).1 = .error failed) :
    ∃ before pointer after, packet.regionPtrs = before ++ pointer :: after ∧
      (∀ earlier ∈ before, Inside size earlier) ∧ ¬ Inside size pointer ∧
      failed = regionError before.length pointer := by
  rw [pipe.sendPacket_mapped packet cbk size mapped] at refused
  cases checked : checkRegions size 0 packet.regionPtrs with
  | error found =>
    rw [checked] at refused
    obtain rfl := Except.error.inj refused
    simpa using checkRegions_error size 0 packet.regionPtrs found checked
  | ok done =>
    rw [checked] at refused
    cases refused

-- `OnPacketReceived` is called exactly for the packets whose regions are all in the shared
-- buffer, with the packet and the buffer. Otherwise the pipe loses its binding and its buffer.
theorem packet_received_iff (pipe : MediaPipeBase) (packet : MediaPacket) (cbk : Nat) :
    ((∃ state, (pipe.sendPacket packet cbk).1 = .ok state) ↔ pipe.Admits packet) ∧
    (∀ state, (pipe.sendPacket packet cbk).1 = .ok state →
      state.packet = packet ∧ pipe.buffer = some state.buffer) ∧
    (¬ pipe.Admits packet → (pipe.sendPacket packet cbk).2.bound = false ∧
      (pipe.sendPacket packet cbk).2.buffer = none) := by
  by_cases admitted : pipe.Admits packet
  · have ⟨size, mapped, inside⟩ := admitted
    rw [pipe.sendPacket_admitted packet cbk size mapped inside]
    refine ⟨⟨fun _ => admitted, fun _ => ⟨_, rfl⟩⟩, ?_, fun refused => absurd admitted refused⟩
    intro state same
    obtain rfl := Except.ok.inj same
    exact ⟨rfl, mapped⟩
  · obtain ⟨failed, sent⟩ := pipe.sendPacket_refused packet cbk admitted
    rw [sent]
    refine ⟨⟨?_, fun holds => absurd holds admitted⟩, ?_, fun _ => ⟨rfl, rfl⟩⟩
    · rintro ⟨state, same⟩
      cases same
    · intro state same
      cases same

-- Three regions of a buffer of eight bytes. The last begins one byte too late.
example : (sendPacket { buffer := some 8 }
    { payload := some ⟨0, 4⟩, extraPayload := some [some ⟨4, 4⟩, some ⟨8, 1⟩] } 0) =
      (.error (.outOfRange 2), { bound := false }) := by
  decide +kernel

end MediaPipeBase

def pipeBase (pipe : AudioPipe) : MediaPipeBase := { bound := pipe.bound, buffer := pipe.buffer }

theorem audioPipe_sendPacket (pipe : AudioPipe) (owner : PipeOwner) (packet : MediaPacket)
    (cbk : Nat) :
    pipe.sendPacket owner packet =
      match ((pipeBase pipe).sendPacket packet cbk).1 with
      | .error failed => (.error failed, pipe.reset)
      | .ok state =>
        match pipe.onPacketReceived owner state.packet with
        | .error failed => (.error failed, pipe.reset)
        | .ok (ref, next) => (.ok ref, next) := by
  unfold AudioPipe.sendPacket AudioPipe.accept
  cases mapped : pipe.buffer with
  | none =>
    have unmapped : (pipeBase pipe).buffer = none := mapped
    simp only [MediaPipeBase.sendPacket, unmapped]
  | some size =>
    rw [(pipeBase pipe).sendPacket_mapped packet cbk size mapped]
    cases checked : checkRegions size 0 packet.regionPtrs with
    | error failed =>
      simp only [checked]
      rfl
    | ok done =>
      simp only [checked]
      rfl

end MojoMedia.Common
