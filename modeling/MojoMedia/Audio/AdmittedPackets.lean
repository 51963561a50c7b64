import MojoMedia.Audio.PacketRegions

set_option autoImplicit false

namespace MojoMedia.Audio

open Mixers

def MediaPacket.frames (frameSize : UInt32) (packet : MediaPacket) : Nat :=
  (packet.regions.map (MediaPacketRegion.frames frameSize)).sum

-- The assertions of `ProcessMix` and of the samplers.
def AudioRegion.Mixable (region : AudioRegion) : Prop :=
  fracOne ≤ region.fracFrameLen.toNat ∧ region.fracFrameLen.toNat ≤ 2 ^ 31 - 1

section Counting

variable {frameSize : UInt32}

theorem mixable_shifted (base : UInt64) (count : UInt32) (small : count ≤ kMaxFrames) :
    AudioRegion.Mixable ⟨base, count <<< 12⟩ ↔ 0 < count.toNat ∧ count.toNat < 2 ^ 19 := by
  rw [AudioRegion.Mixable, shifted_toNat count small,
    show fracOne = 2 ^ ptsFractionalBits from rfl, show ptsFractionalBits = 12 from rfl]
  omega

-- As long as the total can be counted, the regions hold the exact totals so far. They grow,
-- so the first is the smallest and the last the largest.
theorem mixable_iff (framed : frameSize ≠ 0) (first : MediaPacketRegion)
    (rest : List MediaPacketRegion) (index : Nat) (count total : UInt32) (out : List AudioRegion)
    (accepted : countFrames frameSize index count (first :: rest) = .ok (out, total))
    (counted : count.toNat + ((first :: rest).map (MediaPacketRegion.frames frameSize)).sum <
      2 ^ 32) :
    (∀ region ∈ out, region.Mixable) ↔
      0 < count.toNat + first.frames frameSize ∧
        count.toNat + ((first :: rest).map (MediaPacketRegion.frames frameSize)).sum < 2 ^ 19 := by
  induction rest generalizing first index count out with
  | nil =>
    obtain ⟨next, tail, exact, -, small, later, rfl⟩ := countFrames_cons framed accepted
    obtain ⟨rfl, -⟩ := Prod.mk.inj (Except.ok.inj later)
    simp only [List.map_cons, List.map_nil, List.sum_cons, List.sum_nil, Nat.add_zero] at counted ⊢
    rw [Nat.mod_eq_of_lt counted] at exact
    rw [List.forall_mem_singleton, mixable_shifted _ next small, exact]
  | cons second rest ih =>
    obtain ⟨next, tail, exact, -, small, later, rfl⟩ := countFrames_cons framed accepted
    rw [List.map_cons, List.sum_cons, ← Nat.add_assoc] at counted ⊢
    rw [Nat.mod_eq_of_lt (by omega)] at exact
    rw [List.forall_mem_cons, mixable_shifted _ next small,
      ih second (index + 1) next tail later (by rwa [exact]), exact]
    simp only [List.map_cons, List.sum_cons]
    omega

end Counting

-- The frames of an accepted packet are at most `kMaxFrames` and its regions can be mixed exactly
-- when there is a frame in its first region and fewer than 2 ^ 19 in the packet.
theorem admits_mixable_iff (pipe next : AudioPipe) (owner : PipeOwner) (packet : MediaPacket)
    (ref : AudioPacketRef) (size : UInt64) (mapped : pipe.buffer = some size)
    (accepted : pipe.sendPacket owner packet = (.ok ref, next)) :
    (packet.frames owner.bytesPerFrame ≤ kMaxFrames.toNat ∧ ∀ region ∈ ref.regions,
      region.Mixable) ↔
      (∀ first ∈ packet.regions.head?, 0 < first.frames owner.bytesPerFrame) ∧
        packet.frames owner.bytesPerFrame < 2 ^ 19 := by
  obtain ⟨checked, out, total, start, counted, -, rfl⟩ := sendPacket_ok mapped accepted
  have limit : kMaxFrames.toNat = 2 ^ 20 - 1 := rfl
  obtain ⟨first, rest, regions⟩ := List.exists_cons_of_ne_nil (regions_ne_nil packet size checked)
  rw [regions] at counted
  unfold MediaPacket.frames
  rw [regions]
  have mixable := mixable_iff owner.framed first rest 0 0 total out counted
  simp only [UInt32.toNat_zero, Nat.zero_add] at mixable
  simp only [List.head?_cons, Option.mem_some_iff, forall_eq', limit]
  constructor
  · rintro ⟨few, every⟩
    exact (mixable (by omega)).mp every
  · rintro ⟨some, few⟩
    exact ⟨by omega, (mixable (by omega)).mpr ⟨some, few⟩⟩

theorem admits_mixable_short :
    ∃ ref next, AudioPipe.sendPacket { buffer := some 8 } ⟨2, ⟨4096, 1⟩, by decide⟩
        { pts := 3, payload := some ⟨0, 4⟩, extraPayload := some [some ⟨4, 2⟩] } =
          (.ok ref, next) ∧
      ref.regions = [⟨0, 8192⟩, ⟨4, 12288⟩] ∧ ∀ region ∈ ref.regions, region.Mixable := by
  let owner : PipeOwner := ⟨2, ⟨4096, 1⟩, by decide⟩
  let packet : MediaPacket :=
    { pts := 3, payload := some ⟨0, 4⟩, extraPayload := some [some ⟨4, 2⟩] }
  let ref : AudioPacketRef :=
    { regions := [⟨0, 8192⟩, ⟨4, 12288⟩], startPts := 12288, endPts := 24576 }
  have accepted : AudioPipe.sendPacket { buffer := some 8 } owner packet =
      (.ok ref, { buffer := some 8, nextPts := some 24576 }) := by
    decide +kernel
  refine ⟨ref, _, accepted, rfl, ?_⟩
  refine ((admits_mixable_iff { buffer := some 8 } _ owner packet ref 8 rfl accepted).mpr ?_).2
  constructor <;> decide

theorem long_packet_admitted :
    ∃ ref next, AudioPipe.sendPacket { buffer := some 1048576 } ⟨1, ⟨4096, 1⟩, by decide⟩
        { pts := 0, payload := some ⟨0, 524288⟩ } = (.ok ref, next) ∧
      ref.regions = [⟨0, 2147483648⟩] ∧
      ¬ ∀ region ∈ ref.regions, region.Mixable := by
  refine ⟨{ regions := [⟨0, 2147483648⟩], startPts := 0, endPts := 2147483648 },
    { buffer := some 1048576, nextPts := some 2147483648 }, by decide +kernel, rfl, ?_⟩
  intro mixable
  have upper := (mixable ⟨0, 2147483648⟩ (by simp)).2
  exact absurd upper (by decide)

-- The frames are counted modulo 2 ^ 32, and an empty region makes one that has no frame.
example : (countFrames 1 0 0 [⟨0, 0⟩, ⟨0, 4294967297⟩]) = .ok ([⟨0, 0⟩, ⟨0, 4096⟩], 1) := by
  decide +kernel

end MojoMedia.Audio
