import MojoMedia.Framework.SparseByteBufferSearch

set_option autoImplicit false

namespace MojoMedia.SparseByteBuffer

open OrderedMap Extents

def readByte (buffer : SparseByteBuffer) (position : Nat) (hint : Region) : Option UInt8 := do
  let key ← (← buffer.findRegionContaining position hint)
  let bytes ← buffer.regions.get? key
  bytes[position - key]?

structure Filled (buffer : SparseByteBuffer) (position : Nat) (bytes : List UInt8) (hole : Hole)
    (next : SparseByteBuffer) : Prop where
  written : ∀ index, index < bytes.length → ∀ hint, next.CurrentRegion hint →
    next.readByte (position + index) hint = bytes[index]?
  kept : ∀ other, buffer.InRegion other → ∀ hint nextHint, buffer.CurrentRegion hint →
    next.CurrentRegion nextHint → next.readByte other nextHint = buffer.readByte other hint
  following : ∀ key, hole = some key → next.holes.FirstFrom (position + bytes.length) key
  full : hole = none ↔ ∀ key, next.holes.get? key = none

theorem Partition.readByte_eq {buffer : SparseByteBuffer} (partition : buffer.Partition)
    {key position : Nat} {bytes : List UInt8} {hint : Region}
    (there : buffer.regions.get? key = some bytes) (lower : key ≤ position)
    (upper : position < key + bytes.length) (valid : buffer.CurrentRegion hint) :
    buffer.readByte position hint = bytes[position - key]? := by
  have found := partition.searchRegion_found ⟨bytes, there, lower, upper⟩
  rw [readByte, partition.findRegionContaining_eq valid, found]
  simp [there]

theorem Partition.fill_filled {buffer : SparseByteBuffer} (partition : buffer.Partition)
    {position size : Nat} {bytes : List UInt8} (there : buffer.holes.get? position = some size)
    (nonempty : bytes ≠ [])
    (free : ∀ other, position ≤ other → other < position + bytes.length → buffer.InHole other) :
    ∃ hole next, buffer.fill (some position) bytes = some (hole, next) ∧
      buffer.Filled position bytes hole next := by
  obtain ⟨hole, next, filled, after, -, -, following, regions, -, -⟩ :=
    partition.fill_spec there nonempty free
  refine ⟨hole, next, filled, ?_, ?_, ?_, ?_⟩
  · intro index inside hint valid
    have placed : next.regions.get? position = some bytes := by rw [regions, if_pos rfl]
    rw [after.readByte_eq placed (by omega) (by omega) valid, Nat.add_sub_cancel_left]
  · rintro other ⟨key, stored, present, lower, upper⟩ hint nextHint valid nextValid
    -- The hole that is filled starts at no region.
    have notPosition : key ≠ position := by
      rintro rfl
      refine partition.exclusive key (free key (Nat.le_refl _) ?_)
        ⟨key, partition.regions.holds_key present⟩
      have length := List.length_pos_iff.mpr nonempty
      omega
    have still : next.regions.get? key = some stored := by rw [regions, if_neg notPosition, present]
    rw [after.readByte_eq still lower upper nextValid,
      partition.readByte_eq present lower upper valid]
  · rintro key rfl
    exact firstFrom_eq_some _ _ key following.symm
  · rw [following]
    exact firstFrom_eq_none _ _

-- Filling holes that follow each other without a gap ends, every byte reads back, what was stored
-- before does not change, and the hole that is returned is the first one behind.
theorem fill_reads_back (size : Nat) (buffer : SparseByteBuffer) (reached : Reached size buffer)
    (position holeSize : Nat) (bytes : List UInt8)
    (there : buffer.holes.get? position = some holeSize) (nonempty : bytes ≠ [])
    (free : ∀ other, position ≤ other → other < position + bytes.length → buffer.InHole other) :
    ∃ hole next, buffer.fill (some position) bytes = some (hole, next) ∧
      buffer.Filled position bytes hole next :=
  reached.partition.1.fill_filled there nonempty free

theorem fill_behind_middle :
    ∃ hole next, middle.fill (some 6) [1, 2, 3, 4] = some (hole, next) ∧
      middle.Filled 6 [1, 2, 3, 4] hole next := by
  refine fill_reads_back 10 middle middle_reached 6 4 [1, 2, 3, 4] rfl (by decide) ?_
  intro other lower upper
  exact ⟨6, 4, rfl, lower, upper⟩

end MojoMedia.SparseByteBuffer
