import MojoMedia.Audio.AudioPipe
import Mathlib.Data.List.ReduceOption

set_option autoImplicit false

namespace MojoMedia.Audio

open Mixers

def OneFilled (frameSize : UInt32) (payload : List MediaPacketRegion) : Prop :=
  (∀ region ∈ payload.dropLast, region.length = 0) ∧
    ∀ last ∈ payload.getLast?, last.frames frameSize < 2 ^ 32

theorem oneFilled_singleton (frameSize : UInt32) (region : MediaPacketRegion) :
    OneFilled frameSize [region] ↔ region.frames frameSize < 2 ^ 32 := by
  simp [OneFilled]

theorem oneFilled_cons (frameSize : UInt32) (region next : MediaPacketRegion)
    (rest : List MediaPacketRegion) :
    OneFilled frameSize (region :: next :: rest) ↔
      region.length = 0 ∧ OneFilled frameSize (next :: rest) := by
  simp [OneFilled, and_assoc]

section Counting

variable {frameSize : UInt32}

theorem frameCount_toNat (count : UInt32) (region : MediaPacketRegion) :
    (count + (region.length / frameSize.toUInt64).toUInt32).toNat =
      (count.toNat + region.frames frameSize) % 2 ^ 32 := by
  rw [UInt32.toNat_add, UInt64.toNat_toUInt32, UInt64.toNat_div, UInt32.toNat_toUInt64,
    Nat.add_mod_mod]
  rfl

theorem shifted_toNat (count : UInt32) (small : count ≤ kMaxFrames) :
    (count <<< 12).toNat = count.toNat * 2 ^ ptsFractionalBits := by
  have bound : count.toNat ≤ 2 ^ 20 - 1 := UInt32.le_iff_toNat_le.mp small
  rw [UInt32.toNat_shiftLeft, Nat.shiftLeft_eq]
  apply Nat.mod_eq_of_lt
  simp only [UInt32.reduceToNat, Nat.reduceMod]
  omega

theorem divides_of_checked (framed : frameSize ≠ 0) (region : MediaPacketRegion)
    (checked : ¬ (1 < frameSize ∧ region.length % frameSize.toUInt64 ≠ 0)) :
    frameSize.toNat ∣ region.length.toNat := by
  by_cases one : 1 < frameSize
  · have remainder : region.length % frameSize.toUInt64 = 0 := by
      by_contra other
      exact checked ⟨one, other⟩
    have zero := congrArg UInt64.toNat remainder
    rw [UInt64.toNat_mod, UInt32.toNat_toUInt64] at zero
    exact Nat.dvd_of_mod_eq_zero zero
  · have small : frameSize.toNat ≤ 1 := UInt32.le_iff_toNat_le.mp (UInt32.not_lt.mp one)
    have positive := MachineInt.toNat_pos frameSize framed
    obtain same : frameSize.toNat = 1 := by omega
    rw [same]
    exact Nat.one_dvd _

theorem countFrames_cons (framed : frameSize ≠ 0) {index : Nat} {count total : UInt32}
    {region : MediaPacketRegion} {rest : List MediaPacketRegion} {out : List AudioRegion}
    (accepted : countFrames frameSize index count (region :: rest) = .ok (out, total)) :
    ∃ next tail, next.toNat = (count.toNat + region.frames frameSize) % 2 ^ 32 ∧
      frameSize.toNat ∣ region.length.toNat ∧ next ≤ kMaxFrames ∧
      countFrames frameSize (index + 1) next rest = .ok (tail, total) ∧
      out = { base := region.offset, fracFrameLen := next <<< 12 } :: tail := by
  rw [countFrames] at accepted
  split at accepted
  · cases accepted
  next divisible =>
    simp only at accepted
    split at accepted
    · cases accepted
    next few =>
      split at accepted
      · cases accepted
      next tail whole counted =>
        obtain ⟨rfl, rfl⟩ := Prod.mk.inj (Except.ok.inj accepted)
        exact ⟨_, tail, frameCount_toNat count region, divides_of_checked framed region divisible,
          UInt32.not_lt.mp few, counted, rfl⟩

def AsLong (frameSize : UInt32) (region : AudioRegion) (sent : MediaPacketRegion) : Prop :=
  region.fracFrameLen.toNat = sent.frames frameSize * 2 ^ ptsFractionalBits

theorem asLong_iff (region : MediaPacketRegion) (count next : UInt32) (small : next ≤ kMaxFrames)
    (counted : next.toNat = (count.toNat + region.frames frameSize) % 2 ^ 32) :
    AsLong frameSize ⟨region.offset, next <<< 12⟩ region ↔
      count = 0 ∧ region.frames frameSize < 2 ^ 32 := by
  have bound := count.toNat_lt
  have sameTotal : AsLong frameSize ⟨region.offset, next <<< 12⟩ region ↔
      next.toNat = region.frames frameSize := by
    rw [AsLong, shifted_toNat next small]
    exact Nat.mul_left_inj (by decide)
  rw [sameTotal, counted, ← UInt32.toNat_inj, UInt32.toNat_zero]
  omega

theorem frames_eq_zero (framed : frameSize ≠ 0) (region : MediaPacketRegion)
    (divides : frameSize.toNat ∣ region.length.toNat) :
    region.frames frameSize = 0 ↔ region.length = 0 := by
  have positive := MachineInt.toNat_pos frameSize framed
  rw [← UInt64.toNat_inj, UInt64.toNat_zero, MediaPacketRegion.frames,
    Nat.div_eq_zero_iff_lt positive]
  constructor
  · exact fun small => Nat.eq_zero_of_dvd_of_lt divides small
  · intro zero
    rwa [zero]

theorem lengths_iff (framed : frameSize ≠ 0) (payload : List MediaPacketRegion) (index : Nat)
    (count total : UInt32) (out : List AudioRegion)
    (accepted : countFrames frameSize index count payload = .ok (out, total)) :
    List.Forall₂ (AsLong frameSize) out payload ↔
      payload = [] ∨ (count = 0 ∧ OneFilled frameSize payload) := by
  induction payload generalizing index count out with
  | nil =>
    obtain ⟨rfl, -⟩ := Prod.mk.inj (Except.ok.inj accepted)
    simp
  | cons region rest ih =>
    obtain ⟨next, tail, counted, divides, small, later, rfl⟩ := countFrames_cons framed accepted
    rw [List.forall₂_cons, ih (index + 1) next tail later,
      asLong_iff region count next small counted]
    cases rest with
    | nil => simp [oneFilled_singleton]
    | cons following rest =>
      have empty := frames_eq_zero framed region divides
      have none : next = 0 ↔ next.toNat = 0 := by rw [← UInt32.toNat_inj, UInt32.toNat_zero]
      have zero : count = 0 ↔ count.toNat = 0 := by rw [← UInt32.toNat_inj, UInt32.toNat_zero]
      rw [oneFilled_cons, ← empty]
      simp only [reduceCtorEq, false_or, none, zero]
      constructor
      · rintro ⟨⟨start, few⟩, still, filled⟩
        exact ⟨start, by omega, filled⟩
      · rintro ⟨start, still, filled⟩
        exact ⟨⟨start, by omega⟩, by omega, filled⟩

theorem total_eq_sum (framed : frameSize ≠ 0) (payload : List MediaPacketRegion) (index : Nat)
    (count total : UInt32) (out : List AudioRegion)
    (accepted : countFrames frameSize index count payload = .ok (out, total))
    (lengths : List.Forall₂ (AsLong frameSize) out payload) :
    total.toNat = count.toNat + (payload.map (MediaPacketRegion.frames frameSize)).sum := by
  induction payload generalizing index count out with
  | nil =>
    obtain ⟨-, rfl⟩ := Prod.mk.inj (Except.ok.inj accepted)
    simp
  | cons region rest ih =>
    obtain ⟨next, tail, counted, -, small, later, rfl⟩ := countFrames_cons framed accepted
    obtain ⟨own, others⟩ := List.forall₂_cons.mp lengths
    obtain ⟨rfl, few⟩ := (asLong_iff region count next small counted).mp own
    rw [ih (index + 1) next tail later others, counted, List.map_cons, List.sum_cons]
    simp only [UInt32.toNat_zero, Nat.zero_add, Nat.mod_eq_of_lt few]

theorem bases_kept (framed : frameSize ≠ 0) (payload : List MediaPacketRegion) (index : Nat)
    (count total : UInt32) (out : List AudioRegion)
    (accepted : countFrames frameSize index count payload = .ok (out, total)) :
    List.Forall₂ (fun region sent => region.base = sent.offset) out payload := by
  induction payload generalizing index count out with
  | nil =>
    obtain ⟨rfl, -⟩ := Prod.mk.inj (Except.ok.inj accepted)
    exact .nil
  | cons region rest ih =>
    obtain ⟨next, tail, -, -, -, later, rfl⟩ := countFrames_cons framed accepted
    exact .cons rfl (ih (index + 1) next tail later)

theorem denoted_inside (region : AudioRegion) (sent : MediaPacketRegion)
    (base : region.base = sent.offset) (length : AsLong frameSize region sent) (byte : Nat)
    (denoted : AudioRegion.Denotes frameSize region byte) : sent.Contains byte := by
  obtain ⟨lower, upper⟩ := denoted
  have whole : sent.frames frameSize * frameSize.toNat ≤ sent.length.toNat :=
    Nat.div_mul_le_self _ _
  rw [length, Nat.mul_div_cancel _ (by decide), base] at upper
  rw [base] at lower
  exact ⟨lower, by omega⟩

theorem all_denoted_inside (size : UInt64) (out : List AudioRegion)
    (payload : List MediaPacketRegion)
    (bases : List.Forall₂ (fun region sent => region.base = sent.offset) out payload)
    (lengths : List.Forall₂ (AsLong frameSize) out payload)
    (mapped : ∀ sent ∈ payload, sent.offset.toNat + sent.length.toNat ≤ size.toNat) :
    List.Forall₂ (fun region sent => ∀ byte, AudioRegion.Denotes frameSize region byte →
      sent.Contains byte ∧ byte < size.toNat) out payload := by
  induction lengths with
  | nil => exact .nil
  | cons own others ih =>
    obtain ⟨base, rest⟩ := List.forall₂_cons.mp bases
    obtain ⟨here, elsewhere⟩ := List.forall_mem_cons.mp mapped
    refine .cons ?_ (ih rest elsewhere)
    intro byte denoted
    have contained := denoted_inside _ _ base own byte denoted
    exact ⟨contained, Nat.lt_of_lt_of_le contained.2 here⟩

theorem lengths_sum (out : List AudioRegion) (payload : List MediaPacketRegion)
    (lengths : List.Forall₂ (AsLong frameSize) out payload) :
    (out.map fun region => region.fracFrameLen.toNat).sum =
      (payload.map (MediaPacketRegion.frames frameSize)).sum * 2 ^ ptsFractionalBits := by
  induction lengths with
  | nil => simp
  | cons own _ ih =>
    rw [List.map_cons, List.sum_cons, List.map_cons, List.sum_cons, ih, own, Nat.add_mul]

end Counting

theorem checkRegions_inside (size : UInt64) (index : Nat)
    (pointers : List (Option MediaPacketRegion))
    (checked : checkRegions size index pointers = .ok ()) :
    ∀ region ∈ pointers.reduceOption, region.offset.toNat + region.length.toNat ≤ size.toNat := by
  induction pointers generalizing index with
  | nil => simp
  | cons pointer rest ih =>
    cases pointer with
    | none => cases checked
    | some region =>
      rw [checkRegions] at checked
      split at checked
      · cases checked
      next inside =>
        rw [not_or, UInt64.not_lt, UInt64.not_lt] at inside
        obtain ⟨start, length⟩ := inside
        intro other member
        rw [List.reduceOption_cons_of_some, List.mem_cons] at member
        rcases member with rfl | later
        · rw [UInt64.le_iff_toNat_le, UInt64.toNat_sub_of_le _ _ start] at length
          have := UInt64.le_iff_toNat_le.mp start
          omega
        · exact ih (index + 1) checked other later

theorem regions_ne_nil (packet : MediaPacket) (size : UInt64)
    (checked : checkRegions size 0 packet.regionPtrs = .ok ()) : packet.regions ≠ [] := by
  cases payload : packet.payload with
  | none =>
    simp only [MediaPacket.regionPtrs, payload] at checked
    cases checked
  | some region => simp [MediaPacket.regions, MediaPacket.regionPtrs, payload]

theorem sendPacket_ok {pipe next : AudioPipe} {owner : PipeOwner} {packet : MediaPacket}
    {ref : AudioPacketRef} {size : UInt64} (mapped : pipe.buffer = some size)
    (accepted : pipe.sendPacket owner packet = (.ok ref, next)) :
    checkRegions size 0 packet.regionPtrs = .ok () ∧
    ∃ out total start, countFrames owner.bytesPerFrame 0 0 packet.regions = .ok (out, total) ∧
      pipe.startPts owner packet.pts = some start ∧
      ref = { regions := out, startPts := start,
              endPts := start + Int64.ofNat (total.toNat * 2 ^ ptsFractionalBits) } := by
  simp only [AudioPipe.sendPacket, AudioPipe.accept, mapped] at accepted
  cases checked : checkRegions size 0 packet.regionPtrs with
  | error failed =>
    rw [checked] at accepted
    cases accepted
  | ok done =>
    refine ⟨rfl, ?_⟩
    rw [checked] at accepted
    simp only [AudioPipe.onPacketReceived] at accepted
    cases counted : countFrames owner.bytesPerFrame 0 0 packet.regions with
    | error failed =>
      rw [counted] at accepted
      cases accepted
    | ok result =>
      obtain ⟨out, total⟩ := result
      rw [counted] at accepted
      cases started : pipe.startPts owner packet.pts with
      | none => simp [started, bind, Except.bind] at accepted
      | some start =>
        refine ⟨out, total, start, rfl, rfl, ?_⟩
        simp only [started, bind, Except.bind] at accepted
        exact (Except.ok.inj (Prod.mk.inj accepted).1).symm

theorem endPts_toInt (start : Int64) (total : UInt32) :
    (start + Int64.ofNat (total.toNat * 2 ^ ptsFractionalBits)).toInt - start.toInt =
      ((total.toNat * 2 ^ ptsFractionalBits : Nat) : Int) ↔
    start.toInt + ((total.toNat * 2 ^ ptsFractionalBits : Nat) : Int) < 2 ^ 63 := by
  have count := total.toNat_lt
  have lower := start.le_toInt
  have upper := (start + Int64.ofNat (total.toNat * 2 ^ ptsFractionalBits)).toInt_lt
  have small : total.toNat * 2 ^ ptsFractionalBits < 2 ^ 63 := by
    rw [show ptsFractionalBits = 12 from rfl]
    omega
  rw [Int64.toInt_add, Int64.toInt_ofNat_of_lt small] at upper ⊢
  constructor
  · intro same
    omega
  · intro fits
    rw [Int.bmod_eq_of_le (by omega) (by omega)]
    omega

-- An accepted packet is faithful exactly when all of its regions but the last are empty, the
-- frames of the last can be counted, and its end time does not overflow.
theorem accepted_faithful_iff (pipe next : AudioPipe) (owner : PipeOwner) (packet : MediaPacket)
    (ref : AudioPacketRef) (size : UInt64) (mapped : pipe.buffer = some size)
    (accepted : pipe.sendPacket owner packet = (.ok ref, next)) :
    ref.Faithful owner.bytesPerFrame size packet.regions ↔
      (∀ region ∈ packet.regions.dropLast, region.length = 0) ∧
      (∀ last ∈ packet.regions.getLast?, last.frames owner.bytesPerFrame < 2 ^ 32) ∧
      ∀ start, pipe.startPts owner packet.pts = some start →
        start.toInt + (((packet.regions.map (MediaPacketRegion.frames owner.bytesPerFrame)).sum *
          2 ^ ptsFractionalBits : Nat) : Int) < 2 ^ 63 := by
  obtain ⟨checked, out, total, start, counted, started, rfl⟩ := sendPacket_ok mapped accepted
  have framed := owner.framed
  have filled : packet.regions ≠ [] := regions_ne_nil packet size checked
  have lengths := lengths_iff framed packet.regions 0 0 total out counted
  rw [or_iff_right filled, and_iff_right rfl] at lengths
  have sum (long : List.Forall₂ (AsLong owner.bytesPerFrame) out packet.regions) :
      total.toNat = (packet.regions.map (MediaPacketRegion.frames owner.bytesPerFrame)).sum := by
    simpa using total_eq_sum framed packet.regions 0 0 total out counted long
  constructor
  · rintro ⟨long, duration, -⟩
    obtain ⟨empty, few⟩ := lengths.mp long
    refine ⟨empty, few, ?_⟩
    intro other same
    obtain rfl := Option.some.inj (started.symm.trans same)
    rw [AudioPacketRef.fracFrames, lengths_sum out packet.regions long, ← sum long] at duration
    rw [← sum long]
    exact (endPts_toInt start total).mp duration.symm
  · rintro ⟨empty, few, fits⟩
    have long := lengths.mpr ⟨empty, few⟩
    have inTime := fits start started
    refine ⟨long, ?_, ?_⟩
    · rw [AudioPacketRef.fracFrames, lengths_sum out packet.regions long, ← sum long]
      rw [← sum long] at inTime
      exact ((endPts_toInt start total).mpr inTime).symm
    · apply all_denoted_inside size out packet.regions _ long
      · exact checkRegions_inside size 0 packet.regionPtrs checked
      · exact bases_kept framed packet.regions 0 0 total out counted

theorem last_region_faithful :
    ∃ ref next, AudioPipe.sendPacket { buffer := some 8 } ⟨2, ⟨4096, 1⟩, by decide⟩
        { pts := 3, payload := some ⟨2, 0⟩, extraPayload := some [some ⟨4, 4⟩] } =
          (.ok ref, next) ∧
      ref = { regions := [⟨2, 0⟩, ⟨4, 8192⟩], startPts := 12288, endPts := 20480 } ∧
      ref.Faithful 2 8 [⟨2, 0⟩, ⟨4, 4⟩] := by
  let owner : PipeOwner := ⟨2, ⟨4096, 1⟩, by decide⟩
  let packet : MediaPacket :=
    { pts := 3, payload := some ⟨2, 0⟩, extraPayload := some [some ⟨4, 4⟩] }
  let ref : AudioPacketRef :=
    { regions := [⟨2, 0⟩, ⟨4, 8192⟩], startPts := 12288, endPts := 20480 }
  have accepted : AudioPipe.sendPacket { buffer := some 8 } owner packet =
      (.ok ref, { buffer := some 8, nextPts := some 20480 }) := by
    decide +kernel
  refine ⟨ref, _, accepted, rfl, ?_⟩
  refine (accepted_faithful_iff { buffer := some 8 } _ owner packet ref 8 rfl accepted).mpr ?_
  refine ⟨by decide, ?_, ?_⟩
  · intro last listed
    obtain rfl : (⟨4, 4⟩ : MediaPacketRegion) = last := Option.some.inj listed
    decide
  · intro start started
    have first : AudioPipe.startPts { buffer := some 8 } owner packet.pts = some 12288 := by
      decide +kernel
    obtain rfl := Option.some.inj (first.symm.trans started)
    decide

-- Two regions of two frames in a buffer of eight bytes: the second is taken to have four
-- frames, and its last byte lies past the end of the buffer.
theorem second_region_overruns :
    ∃ ref next, AudioPipe.sendPacket { buffer := some 8 } ⟨2, ⟨4096, 1⟩, by decide⟩
        { pts := 0, payload := some ⟨0, 4⟩, extraPayload := some [some ⟨4, 4⟩] } =
          (.ok ref, next) ∧
      (∃ region ∈ ref.regions, AudioRegion.Denotes 2 region 11) ∧
      ¬ ref.Faithful 2 8 [⟨0, 4⟩, ⟨4, 4⟩] := by
  refine ⟨{ regions := [⟨0, 8192⟩, ⟨4, 16384⟩], startPts := 0, endPts := 16384 },
    { buffer := some 8, nextPts := some 16384 }, rfl, ?_, ?_⟩
  · refine ⟨⟨4, 16384⟩, by simp, ?_⟩
    constructor <;> decide
  · rintro ⟨lengths, -, -⟩
    have second := (List.forall₂_cons.mp (List.forall₂_cons.mp lengths).2).1
    exact absurd second (by decide)

end MojoMedia.Audio
