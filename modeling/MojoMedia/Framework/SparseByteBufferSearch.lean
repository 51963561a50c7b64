import MojoMedia.Framework.ReaderCacheServe

set_option autoImplicit false

namespace MojoMedia.SparseByteBuffer

open OrderedMap Extents MachineInt Runs

-- What the header asks of the callers: iterators are current, holes are asked for in holes, and
-- data goes into holes, which may be several that follow each other without a gap.
def Permitted (buffer : SparseByteBuffer) : Event → Prop
  | .findOrCreateHole position hint =>
    buffer.InHole position ∧ ∀ other ∈ hint, ∃ size, buffer.holes.get? other = some size
  | .fill hole bytes =>
    bytes ≠ [] ∧ ∃ position size, hole = some position ∧
      buffer.holes.get? position = some size ∧
      ∀ other, position ≤ other → other < position + bytes.length → buffer.InHole other

structure Reached (size : Nat) (buffer : SparseByteBuffer) : Prop where
  positive : 0 < size
  fits : size < 2 ^ 64
  ran : ∃ events, Meets step Permitted (initialized size) events ∧
    run step (initialized size) events = some buffer

theorem Partition.step_permitted {buffer : SparseByteBuffer} (partition : buffer.Partition)
    (event : Event) (permitted : buffer.Permitted event) :
    ∃ next, buffer.step event = some next ∧ next.Partition ∧ next.size = buffer.size := by
  cases event with
  | findOrCreateHole position hint =>
    obtain ⟨inHole, valid⟩ := permitted
    obtain ⟨next, created, kept, size, -⟩ := partition.findOrCreateHole_spec inHole valid
    exact ⟨next, by simp [step, created], kept, size⟩
  | fill hole bytes =>
    obtain ⟨nonempty, position, size, rfl, there, free⟩ := permitted
    obtain ⟨hole, next, filled, kept, size, -⟩ := partition.fill_spec there nonempty free
    exact ⟨next, by simp [step, filled], kept, size⟩

theorem Reached.partition {size : Nat} {buffer : SparseByteBuffer} (reached : Reached size buffer) :
    buffer.Partition ∧ buffer.size = size := by
  obtain ⟨positive, fits, events, permitted, ran⟩ := reached
  obtain ⟨final, also, kept⟩ := run_of_step step Permitted
    (fun buffer => buffer.Partition ∧ buffer.size = size)
    (fun buffer event kept permitted => by
      obtain ⟨next, taken, partition, same⟩ := kept.1.step_permitted event permitted
      exact ⟨next, taken, partition, same.trans kept.2⟩)
    (initialized size) events ⟨initialized_partition size positive fits, rfl⟩ permitted
  obtain rfl := Option.some.inj (ran.symm.trans also)
  exact kept

def FindsRegion (buffer : SparseByteBuffer) (position : Nat) (hint : Region) : Prop :=
  ∃ answer, buffer.findRegionContaining position hint = some answer ∧
    ∀ key, answer = some key ↔ Holds List.length buffer.regions key position

def CurrentRegion (buffer : SparseByteBuffer) (hint : Region) : Prop :=
  ∀ key ∈ hint, ∃ bytes, buffer.regions.get? key = some bytes

theorem not_begun_iff (buffer : SparseByteBuffer) (position : Nat) :
    ¬ buffer.Begun position ↔ (∃ key bytes, buffer.regions.get? key = some bytes) ∧
      ∀ key bytes, buffer.regions.get? key = some bytes → position < key := by
  simp only [Begun, not_or, not_forall, Option.ne_none_iff_exists', not_exists, not_and, not_le,
    ← ne_eq]

section Regions

variable {buffer : SparseByteBuffer} {position : Nat}

theorem searchRegion_not_begun (notBegun : ¬ buffer.Begun position) :
    ∃ key, buffer.searchRegion position = some (some key) ∧ position < key := by
  obtain ⟨⟨key, bytes, there⟩, later⟩ := (not_begun_iff buffer position).mp notBegun
  obtain ⟨start, isStart, -⟩ := first_le buffer.regions there
  obtain ⟨⟨startBytes, begins⟩, -⟩ := lowerBound_eq_some buffer.regions 0 start isStart
  refine ⟨start, ?_, later start startBytes begins⟩
  rw [searchRegion, search_of_later buffer.regions position _ later, isStart]

theorem Partition.findsRegion_iff (partition : buffer.Partition) {hint : Region}
    (valid : buffer.CurrentRegion hint) :
    buffer.FindsRegion position hint ↔ buffer.Begun position := by
  rw [FindsRegion, partition.findRegionContaining_eq valid]
  constructor
  · rintro ⟨answer, found, exact⟩
    by_contra notBegun
    obtain ⟨key, isFirst, later⟩ := searchRegion_not_begun notBegun
    obtain rfl := Option.some.inj (found.symm.trans isFirst)
    obtain ⟨bytes, -, atMost, -⟩ := (exact key).mp rfl
    omega
  · intro begun
    by_cases cached : buffer.InRegion position
    · obtain ⟨key, holds⟩ := cached
      refine ⟨some key, partition.searchRegion_found holds, ?_⟩
      intro other
      constructor
      · rintro ⟨⟩
        exact holds
      · intro also
        rw [partition.regions.unique holds also]
    · refine ⟨none, partition.searchRegion_missing cached begun, ?_⟩
      intro key
      exact iff_of_false nofun fun holds => cached ⟨key, holds⟩

end Regions

-- A region is found where there is one, and only there, whatever the hint is, exactly when some
-- region starts at or before the position or there is none at all.
theorem find_region_iff_begun (size : Nat) (buffer : SparseByteBuffer)
    (reached : Reached size buffer) (position : Nat) (hint : Region)
    (valid : buffer.CurrentRegion hint) :
    (buffer.FindsRegion position hint ∧
      buffer.findRegionContaining position hint = buffer.findRegionContaining position none) ↔
      buffer.Begun position := by
  have partition := reached.partition.1
  rw [partition.findsRegion_iff valid, partition.findRegionContaining_eq valid]
  exact and_iff_left rfl

def middle : SparseByteBuffer :=
  { size := 10, holes := (empty.assign 0 4).assign 6 4, regions := empty.assign 4 [7, 8] }

theorem middle_reached : Reached 10 middle := by
  refine ⟨by decide, by decide, [.findOrCreateHole 4 none, .fill (some 4) [7, 8]], ?_, rfl⟩
  refine ⟨⟨⟨0, 10, rfl, by decide, by decide⟩, nofun⟩, ?_⟩
  rintro split ⟨⟩
  refine ⟨⟨by decide, 4, 6, rfl, rfl, ?_⟩, fun _ _ => trivial⟩
  intro other lower upper
  exact ⟨4, 6, rfl, lower, Nat.lt_of_lt_of_le upper (by decide)⟩

theorem find_region_inside_middle :
    middle.FindsRegion 5 (some 4) ∧
      middle.findRegionContaining 5 (some 4) = middle.findRegionContaining 5 none := by
  refine (find_region_iff_begun 10 middle middle_reached 5 (some 4) ?_).mpr ?_
  · rintro key ⟨⟩
    exact ⟨[7, 8], rfl⟩
  · exact .inr ⟨4, [7, 8], rfl, by decide⟩

theorem find_region_before_middle :
    Reached 10 middle ∧ middle.findRegionContaining 0 none = some (some 4) ∧
      ¬ middle.FindsRegion 0 none := by
  refine ⟨middle_reached, rfl, ?_⟩
  rintro ⟨answer, found, exact⟩
  obtain rfl : some 4 = answer := Option.some.inj found
  obtain ⟨bytes, -, atMost, -⟩ := (exact 4).mp rfl
  exact absurd atMost (by decide)

def FindsHole (buffer : SparseByteBuffer) (position : Nat) : Prop :=
  ∃ answer, buffer.findHoleContaining position = some answer ∧
    ∀ key, answer = some key ↔ Holds id buffer.holes key position

def CurrentHole (buffer : SparseByteBuffer) (hint : Hole) : Prop :=
  ∀ key ∈ hint, ∃ size, buffer.holes.get? key = some size

-- The hole at `key` now ends at the position, and another takes up the rest of it.
structure Cut (buffer : SparseByteBuffer) (key size position : Nat) (next : SparseByteBuffer) :
    Prop where
  sameSize : next.size = buffer.size
  regions : next.regions = buffer.regions
  back : next.holes.get? position = some (key + size - position)
  front : key < position → next.holes.get? key = some (position - key)
  others : ∀ other, other ≠ key → other ≠ position →
    next.holes.get? other = buffer.holes.get? other

def CreatesHole (buffer : SparseByteBuffer) (position : Nat) (hint : Hole) : Prop :=
  ∀ key size, buffer.holes.get? key = some size → key ≤ position → position < key + size →
    ∃ next, buffer.findOrCreateHole position hint = some (some position, next) ∧
      buffer.Cut key size position next

def HoleBefore (buffer : SparseByteBuffer) (position : Nat) : Prop :=
  buffer.InHole position ∨ (∀ key, buffer.holes.get? key = none) ∨
    ((∃ key size, buffer.holes.get? key = some size ∧ key ≤ position) ∧
      ∀ key size, buffer.holes.get? key = some size → key + size ≠ position)

section Holes

variable {buffer : SparseByteBuffer} (partition : buffer.Partition) {position : Nat}

include partition

theorem Partition.createsHole {hint : Hole} (valid : buffer.CurrentHole hint) :
    buffer.CreatesHole position hint := by
  intro key size there lower upper
  refine ⟨_, partition.findOrCreateHole_eq there lower upper valid, rfl, rfl, ?_, ?_, ?_⟩
  · rw [get?_cutAt there lower upper, if_pos rfl]
  · intro before
    rw [get?_cutAt there lower upper, if_neg (by omega), if_pos rfl]
  · intro other notKey notPosition
    rw [get?_cutAt there lower upper, if_neg notPosition, if_neg notKey]

theorem Partition.findHoleContaining_past {key size : Nat}
    (there : buffer.holes.get? key = some size) (past : key + size ≤ position)
    (last : ∀ other value, buffer.holes.get? other = some value → other ≤ position →
      other ≤ key) :
    buffer.findHoleContaining position =
      some (if key + size < position then none else some key) := by
  have positive := partition.holes.positive key size there
  simp only [id] at positive
  rw [findHoleContaining, search_eq buffer.holes position key size _ there (by omega) last
    (fun here => by omega)]
  simp

theorem Partition.findsHole_iff : buffer.FindsHole position ↔ buffer.HoleBefore position := by
  by_cases inHole : buffer.InHole position
  · obtain ⟨key, holds⟩ := inHole
    refine iff_of_true ⟨some key, partition.findHoleContaining_found holds, ?_⟩ (.inl ⟨key, holds⟩)
    intro other
    constructor
    · rintro ⟨⟩
      exact holds
    · intro also
      rw [partition.holes.unique holds also]
  -- Outside of the holes, the only right answer is none.
  have missing : buffer.FindsHole position ↔ buffer.findHoleContaining position = some none := by
    constructor
    · rintro ⟨answer, found, exact⟩
      cases answer with
      | none => exact found
      | some key => exact absurd ⟨key, (exact key).mp rfl⟩ inHole
    · intro found
      refine ⟨none, found, fun key => iff_of_false nofun fun holds => inHole ⟨key, holds⟩⟩
  rw [missing, HoleBefore, or_iff_right inHole]
  by_cases nothing : ∀ key, buffer.holes.get? key = none
  · refine iff_of_true ?_ (.inl nothing)
    exact search_of_empty buffer.holes position _ nothing
  rw [or_iff_right nothing]
  by_cases begun : ∃ key size, buffer.holes.get? key = some size ∧ key ≤ position
  · rw [and_iff_right begun]
    obtain ⟨start, startSize, begins, atMost⟩ := begun
    obtain ⟨key, size, there, lower, last⟩ := exists_last buffer.holes position begins atMost
    have past : key + size ≤ position := by
      by_contra ahead
      exact inHole ⟨key, size, there, lower, by simp only [id]; omega⟩
    have ends : (∀ other otherSize, buffer.holes.get? other = some otherSize →
        other + otherSize ≠ position) ↔ key + size < position := by
      constructor
      · intro none
        have different := none key size there
        omega
      · intro before other otherSize present same
        have positive := partition.holes.positive other otherSize present
        simp only [id] at positive
        have notAfter := last other otherSize present (by omega)
        rcases Nat.lt_or_eq_of_le notAfter with less | isKey
        · have gap := partition.holes.apart other otherSize key size present there less
          have filled := partition.holes.positive key size there
          simp only [id] at gap filled
          omega
        · rw [isKey, there] at present
          obtain rfl := Option.some.inj present
          omega
    rw [partition.findHoleContaining_past there past last, ends]
    by_cases before : key + size < position
    · simp [before]
    · simp [before]
  · refine iff_of_false ?_ (fun both => begun both.1)
    obtain ⟨other, present⟩ := not_forall.mp nothing
    obtain ⟨otherSize, there⟩ := Option.ne_none_iff_exists'.mp present
    obtain ⟨start, isStart, -⟩ := first_le buffer.holes there
    rw [findHoleContaining, search_of_later buffer.holes position _ ?_, isStart]
    · simp
    · intro key size found
      by_contra early
      exact begun ⟨key, size, found, by omega⟩

end Holes

-- Holes are found where they are, and only there, exactly when the position is in a hole, or
-- there are none, or some hole starts at or before the position and none ends at it. A hole that
-- contains the position is cut there in any case.
theorem find_hole_iff_hole_before (size : Nat) (buffer : SparseByteBuffer)
    (reached : Reached size buffer) (position : Nat) (hint : Hole)
    (valid : buffer.CurrentHole hint) :
    (buffer.FindsHole position ∧ buffer.CreatesHole position hint) ↔
      buffer.HoleBefore position := by
  have partition := reached.partition.1
  rw [partition.findsHole_iff]
  exact and_iff_left (partition.createsHole valid)

theorem find_hole_behind_middle :
    middle.FindsHole 8 ∧ middle.CreatesHole 8 (some 0) := by
  refine (find_hole_iff_hole_before 10 middle middle_reached 8 (some 0) ?_).mpr ?_
  · rintro key ⟨⟩
    exact ⟨4, rfl⟩
  · exact .inl ⟨6, 4, rfl, by decide, by decide⟩

theorem find_hole_at_middle :
    Reached 10 middle ∧ middle.findHoleContaining 4 = some (some 0) ∧ ¬ middle.FindsHole 4 := by
  refine ⟨middle_reached, rfl, ?_⟩
  rintro ⟨answer, found, exact⟩
  obtain rfl : some 0 = answer := Option.some.inj found
  obtain ⟨size, there, -, past⟩ := (exact 0).mp rfl
  obtain rfl : 4 = size := Option.some.inj there
  exact absurd past (by decide)

end MojoMedia.SparseByteBuffer
