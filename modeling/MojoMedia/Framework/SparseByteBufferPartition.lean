import MojoMedia.Framework.SparseByteBuffer
import MojoMedia.Shared.Runs

set_option autoImplicit false

namespace MojoMedia.SparseByteBuffer

open OrderedMap Extents MachineInt

def InHole (buffer : SparseByteBuffer) (position : Nat) : Prop := Covered id buffer.holes position

def InRegion (buffer : SparseByteBuffer) (position : Nat) : Prop :=
  Covered List.length buffer.regions position

structure Partition (buffer : SparseByteBuffer) : Prop where
  fits : buffer.size < 2 ^ 64
  holes : Apart id buffer.holes
  regions : Apart List.length buffer.regions
  total : ∀ position, position < buffer.size ↔ buffer.InHole position ∨ buffer.InRegion position
  exclusive : ∀ position, buffer.InHole position → ¬ buffer.InRegion position

def Current {Value : Type} (map : OrderedMap Value) (iterator : Iterator) : Prop :=
  (iterator = none → ∀ key, map.get? key = none) ∧
    ∀ key ∈ iterator, ∃ value, map.get? key = some value

theorem current_first {Value : Type} (map : OrderedMap Value) : Current map map.first := by
  refine ⟨?_, ?_⟩
  · intro atEnd key
    cases found : map.get? key with
    | none => rfl
    | some value =>
      obtain ⟨start, isStart, -⟩ := first_le map found
      rw [atEnd] at isStart
      cases isStart
  · intro key isKey
    exact (lowerBound_eq_some map 0 key isKey).1

theorem initialized_partition (size : Nat) (positive : 0 < size) (fits : size < 2 ^ 64) :
    (initialized size).Partition := by
  have inHole (position : Nat) : (initialized size).InHole position ↔ position < size := by
    simp only [InHole, Covered, initialized, holds_assign_iff]
    constructor
    · rintro ⟨key, holds⟩
      split at holds
      next => simpa using holds.2
      next => simp [Holds] at holds
    · intro inside
      exact ⟨0, by simpa using inside⟩
  have inRegion (position : Nat) : ¬ (initialized size).InRegion position := by
    simp [InRegion, Covered, Holds, initialized]
  refine ⟨fits, ?_, apart_empty, ?_, ?_⟩
  · refine apart_empty.assign positive ?_
    simp [Holds]
  · intro position
    rw [inHole, or_iff_left (inRegion position)]
    rfl
  · intro position _
    exact inRegion position

section FindRegion

variable {buffer : SparseByteBuffer} (partition : buffer.Partition)

include partition

theorem Partition.searchRegion_found {key position : Nat}
    (holds : Holds List.length buffer.regions key position) :
    buffer.searchRegion position = some (some key) := by
  obtain ⟨bytes, there, lower, upper⟩ := holds
  have ahead : decide (key + bytes.length ≤ position) = false := by simpa using upper
  rw [searchRegion, search_eq buffer.regions position key bytes _ there lower
    (partition.regions.last_of_holds ⟨bytes, there, lower, upper⟩) (fun _ => ahead), ahead]
  rfl

theorem Partition.searchRegion_missing {position : Nat}
    (missing : ¬ buffer.InRegion position)
    (begun : (∀ key, buffer.regions.get? key = none) ∨
      ∃ key bytes, buffer.regions.get? key = some bytes ∧ key ≤ position) :
    buffer.searchRegion position = some none := by
  rcases begun with nothing | ⟨start, startBytes, begins, atMost⟩
  · exact search_of_empty _ _ _ nothing
  · obtain ⟨key, bytes, there, lower, last⟩ := exists_last buffer.regions position begins atMost
    have past : key + bytes.length ≤ position := by
      by_contra ahead
      exact missing ⟨key, bytes, there, lower, by omega⟩
    have positive := partition.regions.positive key bytes there
    rw [searchRegion, search_eq buffer.regions position key bytes _ there lower last
      (fun here => by omega), if_pos (by simpa using past)]

theorem Partition.findRegionContaining_eq {position : Nat} {hint : Region}
    (valid : ∀ key ∈ hint, ∃ bytes, buffer.regions.get? key = some bytes) :
    buffer.findRegionContaining position hint = buffer.searchRegion position := by
  cases hint with
  | none => rfl
  | some key =>
    obtain ⟨bytes, there⟩ := valid key rfl
    simp only [findRegionContaining, there, Option.bind_eq_bind, Option.bind_some]
    by_cases before : key ≤ position
    · rw [if_pos before]
      by_cases past : key + bytes.length ≤ position
      · rw [if_pos past]
        cases following : buffer.regions.next key with
        | none => rfl
        | some other =>
          obtain ⟨⟨otherBytes, inside⟩, -⟩ :=
            lowerBound_eq_some buffer.regions (key + 1) other following
          simp only [inside, Option.bind_some]
          split
          next holds =>
            exact (partition.searchRegion_found ⟨otherBytes, inside, holds.1, holds.2⟩).symm
          next => rfl
      · rw [if_neg past]
        exact (partition.searchRegion_found ⟨bytes, there, before, by omega⟩).symm
    · rw [if_neg before]

end FindRegion

theorem covered_split {holes : OrderedMap Nat} (separate : Apart id holes) {key size position : Nat}
    (there : holes.get? key = some size) (after : key < position) (inside : position < key + size) :
    let split := (holes.assign key (position - key)).assign position (size - (position - key))
    Apart id split ∧ ∀ other, Covered id split other ↔ Covered id holes other := by
  intro split
  have holds {other : Nat} : Holds id holes key other ↔ key ≤ other ∧ other < key + size := by
    simp [Holds, there]
  refine ⟨?_, ?_⟩
  · refine Apart.assign (separate.assign (by simp only [id]; omega) ?_)
      (by simp only [id]; omega) ?_
    · intro other lower upper third different held
      simp only [id] at upper
      exact different (separate.unique held (holds.mpr ⟨lower, by omega⟩))
    · intro other lower upper third different held
      simp only [id] at upper
      rw [holds_assign_iff] at held
      split at held
      next => simp only [id] at held; omega
      next notKey => exact notKey (separate.unique held (holds.mpr ⟨by omega, by omega⟩))
  · intro other
    simp only [Covered, split, holds_assign_iff, id]
    constructor
    · rintro ⟨third, held⟩
      split at held
      next => exact ⟨key, holds.mpr (by omega)⟩
      next =>
        split at held
        next => exact ⟨key, holds.mpr (by omega)⟩
        next => exact ⟨third, held⟩
    · rintro ⟨third, held⟩
      by_cases isKey : third = key
      · rw [isKey, holds] at held
        by_cases front : other < position
        · exact ⟨key, by rw [if_neg (by omega), if_pos rfl]; omega⟩
        · exact ⟨position, by rw [if_pos rfl]; omega⟩
      · refine ⟨third, ?_⟩
        rw [if_neg, if_neg isKey]
        · exact held
        · rintro rfl
          obtain ⟨thirdSize, isThird, -⟩ := held
          have gap := separate.get?_none (holds.mpr ⟨Nat.le_of_lt after, inside⟩) (by omega)
          rw [gap] at isThird
          cases isThird

theorem Partition.findHoleContaining_found {buffer : SparseByteBuffer}
    (partition : buffer.Partition) {key position : Nat}
    (holds : Holds id buffer.holes key position) :
    buffer.findHoleContaining position = some (some key) := by
  obtain ⟨size, there, lower, upper⟩ := holds
  rw [findHoleContaining, search_eq buffer.holes position key size _ there lower
    (partition.holes.last_of_holds ⟨size, there, lower, upper⟩) (fun here => by simp [here]),
    if_neg (by simp only [id] at upper; simp; omega)]

theorem Partition.chooseHole_eq {buffer : SparseByteBuffer} (partition : buffer.Partition)
    {key position : Nat} {hint : Hole} (holds : Holds id buffer.holes key position)
    (valid : ∀ other ∈ hint, ∃ size, buffer.holes.get? other = some size) :
    buffer.chooseHole position hint = some key := by
  have found := partition.findHoleContaining_found holds
  obtain ⟨size, there, lower, upper⟩ := holds
  obtain ⟨start, startSize, isStart, begins⟩ : ∃ start size,
      hint.or buffer.holes.first = some start ∧ buffer.holes.get? start = some size := by
    cases hint with
    | none =>
      obtain ⟨start, isStart, -⟩ := first_le buffer.holes there
      obtain ⟨size, begins⟩ := (current_first buffer.holes).2 start isStart
      exact ⟨start, size, isStart, begins⟩
    | some start =>
      obtain ⟨size, begins⟩ := valid start rfl
      exact ⟨start, size, rfl, begins⟩
  simp only [chooseHole, isStart, begins, Option.bind_eq_bind, Option.bind_some]
  split
  next => rw [found]; rfl
  next holdsHere =>
    have positive := partition.holes.positive start startSize begins
    simp only [id] at positive
    rw [partition.holes.unique ⟨size, there, lower, upper⟩
      ⟨startSize, begins, by omega, by simp only [id]; omega⟩]

theorem Partition.hole_inside {buffer : SparseByteBuffer} (partition : buffer.Partition)
    {key size : Nat} (there : buffer.holes.get? key = some size) : key + size ≤ buffer.size := by
  have positive := partition.holes.positive key size there
  have last := (partition.total (key + size - 1)).mpr
    (.inl ⟨key, size, there, by simp only [id] at positive; omega, by
      simp only [id] at positive ⊢; omega⟩)
  omega

def cutAt (holes : OrderedMap Nat) (key size position : Nat) : OrderedMap Nat :=
  if key = position then holes
  else (holes.assign key (position - key)).assign position (size - (position - key))

theorem Partition.findOrCreateHole_eq {buffer : SparseByteBuffer} (partition : buffer.Partition)
    {key size position : Nat} {hint : Hole} (there : buffer.holes.get? key = some size)
    (lower : key ≤ position) (upper : position < key + size)
    (valid : ∀ other ∈ hint, ∃ size, buffer.holes.get? other = some size) :
    buffer.findOrCreateHole position hint =
      some (some position, { buffer with holes := cutAt buffer.holes key size position }) := by
  have chosen := partition.chooseHole_eq ⟨size, there, lower, upper⟩ valid
  simp only [findOrCreateHole, chosen, there, Option.bind_eq_bind, Option.bind_some]
  by_cases here : key = position
  · simp [here, cutAt]
  · have inBuffer := partition.hole_inside there
    have fits := partition.fits
    have front : subU64 position key = position - key :=
      subU64_of_le _ _ (by omega) lower
    have back : subU64 size (position - key) = size - (position - key) :=
      subU64_of_le _ _ (by omega) (by omega)
    have absent : (buffer.holes.assign key (position - key)).get? position = none := by
      rw [get?_assign, if_neg (by omega)]
      exact partition.holes.get?_none ⟨size, there, lower, upper⟩ here
    rw [if_pos here, cutAt, if_neg here]
    simp only [splitHole, front, back, insert_eq_assign _ absent]

theorem get?_cutAt {holes : OrderedMap Nat} {key size position : Nat}
    (there : holes.get? key = some size) (lower : key ≤ position) (upper : position < key + size)
    (other : Nat) :
    (cutAt holes key size position).get? other =
      if other = position then some (key + size - position)
      else if other = key then some (position - key)
      else holes.get? other := by
  unfold cutAt
  split
  next here =>
    subst here
    by_cases isKey : other = key
    · rw [if_pos isKey, isKey, there]
      congr 1
      omega
    · rw [if_neg isKey, if_neg isKey]
  next =>
    rw [get?_assign, get?_assign, show size - (position - key) = key + size - position by omega]

theorem Partition.findOrCreateHole_spec {buffer : SparseByteBuffer} (partition : buffer.Partition)
    {position : Nat} {hint : Hole} (inHole : buffer.InHole position)
    (valid : ∀ other ∈ hint, ∃ size, buffer.holes.get? other = some size) :
    ∃ next, buffer.findOrCreateHole position hint = some (some position, next) ∧
      next.Partition ∧ next.size = buffer.size ∧ next.regions = buffer.regions ∧
      (∀ other, next.InHole other ↔ buffer.InHole other) ∧
      (∃ size, next.holes.get? position = some size) ∧
      ∀ key size, buffer.holes.get? key = some size → ∃ size, next.holes.get? key = some size := by
  obtain ⟨key, size, there, lower, upper⟩ := inHole
  simp only [id] at upper
  obtain ⟨separate, covered⟩ : Apart id (cutAt buffer.holes key size position) ∧
      ∀ other, Covered id (cutAt buffer.holes key size position) other ↔ buffer.InHole other := by
    by_cases here : key = position
    · rw [cutAt, if_pos here]
      exact ⟨partition.holes, fun _ => Iff.rfl⟩
    · rw [cutAt, if_neg here]
      exact covered_split partition.holes there (by omega) upper
  refine ⟨_, partition.findOrCreateHole_eq there lower upper valid,
    ⟨partition.fits, separate, partition.regions, ?_, ?_⟩, rfl, rfl, covered, ?_, ?_⟩
  · intro other
    rw [InHole, covered]
    exact partition.total other
  · intro other held
    rw [InHole, covered] at held
    exact partition.exclusive other held
  · rw [get?_cutAt there lower upper, if_pos rfl]
    exact ⟨_, rfl⟩
  · intro other otherSize present
    rw [get?_cutAt there lower upper]
    split
    next => exact ⟨_, rfl⟩
    next =>
      split
      next => exact ⟨_, rfl⟩
      next => exact ⟨otherSize, present⟩

def carve (holes : OrderedMap Nat) (key size count : Nat) : OrderedMap Nat :=
  (if count < size then holes.insert (key + count) (size - count) else holes).erase key

theorem get?_carve {holes : OrderedMap Nat} (separate : Apart id holes) {key size count : Nat}
    (there : holes.get? key = some size) (positive : 0 < count) (other : Nat) :
    (carve holes key size count).get? other =
      if other = key then none
      else if other = key + count ∧ count < size then some (size - count)
      else holes.get? other := by
  rw [carve, get?_erase]
  by_cases isKey : other = key
  · rw [if_pos isKey, if_pos isKey]
  · rw [if_neg isKey, if_neg isKey]
    by_cases part : count < size
    · have absent : holes.get? (key + count) = none :=
        separate.get?_none ⟨size, there, by omega, by simp only [id]; omega⟩ (by omega)
      rw [if_pos part, get?_insert _ _ _ _ absent]
      simp [part]
    · rw [if_neg part, if_neg (by simp [part])]

theorem carve_spec {holes : OrderedMap Nat} (separate : Apart id holes) {key size count : Nat}
    (there : holes.get? key = some size) (positive : 0 < count) (fits : count ≤ size) :
    Apart id (carve holes key size count) ∧
      (∀ position, Covered id (carve holes key size count) position ↔
        Covered id holes position ∧ ¬ (key ≤ position ∧ position < key + count)) ∧
      ∀ other otherSize, holes.get? other = some otherSize → other ≠ key →
        (carve holes key size count).get? other = some otherSize := by
  have entries := get?_carve separate there positive
  have holds {other : Nat} : Holds id holes key other ↔ key ≤ other ∧ other < key + size := by
    simp [Holds, there]
  -- What is left of the hole starts where no other hole does.
  have alone (otherSize : Nat) (part : count < size)
      (present : holes.get? (key + count) = some otherSize) : False := by
    have absent := separate.get?_none (holds.mpr ⟨by omega, by omega⟩ : Holds id holes key
      (key + count)) (by omega)
    rw [absent] at present
    cases present
  have cases {other otherSize : Nat}
      (present : (carve holes key size count).get? other = some otherSize) :
      other ≠ key ∧ (other = key + count ∧ count < size ∧ otherSize = size - count ∨
        holes.get? other = some otherSize) := by
    rw [entries] at present
    split at present
    next => cases present
    next notKey =>
      split at present
      next rest => exact ⟨notKey, .inl ⟨rest.1, rest.2, (Option.some.inj present).symm⟩⟩
      next => exact ⟨notKey, .inr present⟩
  refine ⟨⟨?_, ?_⟩, ?_, ?_⟩
  · intro other otherSize present
    obtain ⟨-, ⟨-, part, rfl⟩ | kept⟩ := cases present
    · simp only [id]
      omega
    · exact separate.positive other otherSize kept
  · intro first firstSize second secondSize isFirst isSecond below
    obtain ⟨notFirst, ⟨rfl, part, rfl⟩ | keptFirst⟩ := cases isFirst
    · obtain ⟨notSecond, ⟨rfl, -, -⟩ | keptSecond⟩ := cases isSecond
      · omega
      · have gap := separate.apart key size second secondSize there keptSecond (by omega)
        simp only [id] at gap ⊢
        omega
    · obtain ⟨notSecond, ⟨rfl, -, -⟩ | keptSecond⟩ := cases isSecond
      · by_cases before : first < key
        · have gap := separate.apart first firstSize key size keptFirst there before
          omega
        · have gap := separate.apart key size first firstSize there keptFirst (by omega)
          simp only [id] at gap
          omega
      · exact separate.apart first firstSize second secondSize keptFirst keptSecond below
  · intro position
    constructor
    · rintro ⟨other, otherSize, present, lower, upper⟩
      simp only [id] at upper
      obtain ⟨notKey, ⟨rfl, part, rfl⟩ | kept⟩ := cases present
      · exact ⟨⟨key, holds.mpr (by omega)⟩, by omega⟩
      · refine ⟨⟨other, otherSize, kept, lower, upper⟩, ?_⟩
        rintro ⟨above, below⟩
        exact notKey (separate.unique ⟨otherSize, kept, lower, upper⟩ (holds.mpr (by omega)))
    · rintro ⟨⟨other, held⟩, outside⟩
      by_cases isKey : other = key
      · rw [isKey, holds] at held
        refine ⟨key + count, size - count, ?_, by omega, by simp only [id]; omega⟩
        rw [entries, if_neg (by omega), if_pos ⟨rfl, by omega⟩]
      · obtain ⟨otherSize, present, lower, upper⟩ := held
        refine ⟨other, otherSize, ?_, lower, upper⟩
        rw [entries, if_neg isKey, if_neg]
        · exact present
        · rintro ⟨rfl, part⟩
          exact alone otherSize part present
  · intro other otherSize present notKey
    rw [entries, if_neg notKey, if_neg]
    · exact present
    · rintro ⟨rfl, part⟩
      exact alone otherSize part present

-- The hole after the one that is carved, in the wraparound sense.
def afterCarve (holes : OrderedMap Nat) (key size count : Nat) : Hole :=
  ((if count < size then holes.insert (key + count) (size - count) else holes).next key).or
    (carve holes key size count).first

theorem current_afterCarve (holes : OrderedMap Nat) (key size count : Nat) :
    Current (carve holes key size count) (afterCarve holes key size count) := by
  rw [afterCarve, carve]
  generalize (if count < size then holes.insert (key + count) (size - count) else holes) = cut
  cases following : cut.next key with
  | none => exact current_first _
  | some found =>
    obtain ⟨⟨value, there⟩, after, -⟩ := lowerBound_eq_some cut (key + 1) found following
    refine ⟨nofun, ?_⟩
    rintro other ⟨⟩
    exact ⟨value, by rw [get?_erase, if_neg (by omega)]; exact there⟩

theorem afterCarve_eq_firstFrom {holes : OrderedMap Nat} (separate : Apart id holes)
    {key size count : Nat} (there : holes.get? key = some size) (positive : 0 < count)
    (fits : count ≤ size) :
    afterCarve holes key size count = (carve holes key size count).firstFrom (key + count) := by
  rw [afterCarve, carve]
  apply next_or_first_erase _ (by omega)
  intro found after before
  have inside {other : Nat} (after : key < other) (before : other < key + size) :
      holes.get? other = none :=
    separate.get?_none ⟨size, there, by omega, before⟩ (by omega)
  split
  next part =>
    rw [get?_insert _ _ _ _ (inside (by omega) (by omega)), if_neg (by omega)]
    exact inside after (by omega)
  next => exact inside after (by omega)

theorem afterCarve_eq {holes : OrderedMap Nat} (separate : Apart id holes) {key size : Nat}
    (there : holes.get? key = some size) (following : Covered id holes (key + size)) :
    afterCarve holes key size size = some (key + size) := by
  obtain ⟨other, otherSize, isOther, lower, upper⟩ := following
  have positive := separate.positive key size there
  simp only [id] at positive upper
  have adjacent : other = key + size := by
    by_contra different
    rcases Nat.lt_or_ge key other with after | before
    · have gap := separate.apart key size other otherSize there isOther after
      simp only [id] at gap
      omega
    · rcases Nat.lt_or_eq_of_le before with less | same
      · have gap := separate.apart other otherSize key size isOther there less
        simp only [id] at gap
        omega
      · rw [same, there] at isOther
        obtain rfl := Option.some.inj isOther
        omega
  rw [afterCarve, if_neg (Nat.lt_irrefl _)]
  cases found : holes.next key with
  | none =>
    have missed := lowerBound_eq_none holes (key + 1) found other otherSize isOther
    omega
  | some next =>
    obtain ⟨⟨nextSize, isNext⟩, after, least⟩ := lowerBound_eq_some holes (key + 1) next found
    have notLater := least other otherSize isOther (by omega)
    have gap := separate.apart key size next nextSize there isNext (by omega)
    simp only [id] at gap
    rw [Option.some_or, show next = key + size by omega]

theorem removeFilled_succ (fuel : Nat) (holes : OrderedMap Nat) {key size bufferSize : Nat}
    (there : holes.get? key = some size) (positive : 0 < bufferSize) :
    removeFilled (fuel + 1) holes (some key) bufferSize =
      removeFilled fuel (carve holes key size (min bufferSize size))
        (afterCarve holes key size (min bufferSize size)) (bufferSize - min bufferSize size) := by
  obtain ⟨count, rfl⟩ : ∃ count, bufferSize = count + 1 := ⟨bufferSize - 1, by omega⟩
  simp only [removeFilled, there, Option.bind_eq_bind, Option.bind_some]
  by_cases part : count + 1 < size
  · simp only [if_pos part, Nat.min_eq_left (Nat.le_of_lt part), Nat.sub_self, carve, afterCarve]
  · simp only [if_neg part, Nat.min_eq_right (Nat.le_of_not_lt part), Nat.lt_irrefl, if_false,
      carve, afterCarve]

theorem removeFilled_spec (fuel : Nat) (holes : OrderedMap Nat) (iterator : Hole)
    (key bufferSize : Nat) (separate : Apart id holes) (current : Current holes iterator)
    (enough : bufferSize ≤ fuel) (start : 0 < bufferSize → iterator = some key)
    (free : ∀ position, key ≤ position → position < key + bufferSize → Covered id holes position) :
    ∃ next left, removeFilled fuel holes iterator bufferSize = some (next, left) ∧
      Apart id left ∧ Current left next ∧
      (0 < bufferSize → next = left.firstFrom (key + bufferSize)) ∧
      (∀ position, Covered id left position ↔
        Covered id holes position ∧ ¬ (key ≤ position ∧ position < key + bufferSize)) ∧
      ∀ other size, holes.get? other = some size →
        ¬ (key ≤ other ∧ other < key + bufferSize) → left.get? other = some size := by
  induction fuel generalizing holes iterator key bufferSize with
  | zero =>
    obtain rfl : bufferSize = 0 := by omega
    refine ⟨iterator, holes, rfl, separate, current, nofun, ?_, fun _ _ present _ => present⟩
    intro position
    exact ⟨fun held => ⟨held, by omega⟩, fun held => held.1⟩
  | succ fuel ih =>
    by_cases done : bufferSize = 0
    · subst done
      refine ⟨iterator, holes, rfl, separate, current, nofun, ?_, fun _ _ present _ => present⟩
      intro position
      exact ⟨fun held => ⟨held, by omega⟩, fun held => held.1⟩
    · obtain rfl := start (by omega)
      obtain ⟨size, there⟩ := current.2 key rfl
      have positive := separate.positive key size there
      simp only [id] at positive
      rw [removeFilled_succ fuel holes there (by omega)]
      obtain ⟨apart, covered, kept⟩ := carve_spec separate there
        (show 0 < min bufferSize size by omega) (Nat.min_le_right _ _)
      have adjacent (more : 0 < bufferSize - min bufferSize size) :
          afterCarve holes key size (min bufferSize size) = some (key + min bufferSize size) := by
        have whole : min bufferSize size = size := by omega
        rw [whole]
        exact afterCarve_eq separate there (free _ (by omega) (by omega))
      have stillFree (position : Nat) (lower : key + min bufferSize size ≤ position)
          (upper : position < key + min bufferSize size + (bufferSize - min bufferSize size)) :
          Covered id (carve holes key size (min bufferSize size)) position :=
        (covered position).mpr ⟨free position (by omega) (by omega), by omega⟩
      obtain ⟨next, left, removed, apartLeft, currentLeft, nextLeft, coveredLeft, keptLeft⟩ :=
        ih (carve holes key size (min bufferSize size))
          (afterCarve holes key size (min bufferSize size)) (key + min bufferSize size)
          (bufferSize - min bufferSize size) apart (current_afterCarve _ _ _ _) (by omega)
          adjacent stillFree
      refine ⟨next, left, removed, apartLeft, currentLeft, fun _ => ?_, ?_, ?_⟩
      · by_cases more : 0 < bufferSize - min bufferSize size
        · rw [nextLeft more]
          congr 1
          omega
        · have none : bufferSize - min bufferSize size = 0 := by omega
          have all : min bufferSize size = bufferSize := by omega
          rw [none, removeFilled] at removed
          obtain ⟨rfl, rfl⟩ := Prod.mk.inj (Option.some.inj removed)
          rw [afterCarve_eq_firstFrom separate there (by omega) (by omega), all]
      · intro position
        rw [coveredLeft, covered, and_assoc]
        refine and_congr_right fun _ => ?_
        omega
      · intro other otherSize present outside
        exact keptLeft other otherSize (kept other otherSize present (by omega)) (by omega)

theorem Partition.fill_spec {buffer : SparseByteBuffer} (partition : buffer.Partition)
    {position size : Nat} {bytes : List UInt8} (there : buffer.holes.get? position = some size)
    (nonempty : bytes ≠ [])
    (free : ∀ other, position ≤ other → other < position + bytes.length → buffer.InHole other) :
    ∃ hole next, buffer.fill (some position) bytes = some (hole, next) ∧
      next.Partition ∧ next.size = buffer.size ∧ Current next.holes hole ∧
      hole = next.holes.firstFrom (position + bytes.length) ∧
      (∀ key, next.regions.get? key =
        if key = position then some bytes else buffer.regions.get? key) ∧
      (∀ other, next.InHole other ↔ buffer.InHole other ∧
        ¬ (position ≤ other ∧ other < position + bytes.length)) ∧
      ∀ key size, buffer.holes.get? key = some size →
        ¬ (position ≤ key ∧ key < position + bytes.length) → next.holes.get? key = some size := by
  have length : 0 < bytes.length := List.length_pos_iff.mpr nonempty
  have current : Current buffer.holes (some position) :=
    ⟨nofun, fun key isKey => ⟨size, Option.some.inj isKey ▸ there⟩⟩
  obtain ⟨hole, left, removed, apart, currentLeft, following, covered, kept⟩ :=
    removeFilled_spec bytes.length buffer.holes (some position) position bytes.length
      partition.holes current (Nat.le_refl _) (fun _ => rfl) free
  have absent : buffer.regions.get? position = none := by
    cases found : buffer.regions.get? position with
    | none => rfl
    | some other =>
      exact absurd ⟨position, partition.regions.holds_key found⟩
        (partition.exclusive position (free position (Nat.le_refl _) (by omega)))
  have regions (key : Nat) := get?_insert buffer.regions position key bytes absent
  have taken (other : Nat) : Covered List.length (buffer.regions.insert position bytes) other ↔
      buffer.InRegion other ∨ (position ≤ other ∧ other < position + bytes.length) := by
    simp only [Covered, Holds, regions]
    constructor
    · rintro ⟨key, value, present, lower, upper⟩
      split at present
      next isKey =>
        obtain rfl := Option.some.inj present
        exact .inr ⟨by omega, by omega⟩
      next => exact .inl ⟨key, value, present, lower, upper⟩
    · rintro (⟨key, value, present, lower, upper⟩ | ⟨lower, upper⟩)
      · refine ⟨key, value, ?_, lower, upper⟩
        rw [if_neg]
        · exact present
        · rintro rfl
          rw [absent] at present
          cases present
      · exact ⟨position, bytes, if_pos rfl, lower, upper⟩
  refine ⟨hole, { buffer with holes := left, regions := buffer.regions.insert position bytes }, ?_,
    ⟨partition.fits, apart, ?_, ?_, ?_⟩, rfl, currentLeft, following length,
    regions, covered, kept⟩
  · simp only [fill, there, removed, Option.bind_eq_bind, Option.bind_some]
  · rw [insert_eq_assign bytes absent]
    refine partition.regions.assign length ?_
    intro other lower upper key _ held
    exact partition.exclusive other (free other lower upper) ⟨key, held⟩
  · intro other
    have before := partition.total other
    have inHole := free other
    rw [InHole, covered, InRegion, taken]
    change other < buffer.size ↔ buffer.InHole other ∧ _ ∨ _
    tauto
  · intro other inHole inRegion
    rw [InHole, covered] at inHole
    rw [InRegion, taken] at inRegion
    exact inRegion.elim (partition.exclusive other inHole.1) inHole.2

inductive Event where
  | findOrCreateHole (position : Nat) (hint : Hole)
  | fill (hole : Hole) (bytes : List UInt8)

def step (buffer : SparseByteBuffer) : Event → Option SparseByteBuffer
  | .findOrCreateHole position hint => (buffer.findOrCreateHole position hint).map Prod.snd
  | .fill hole bytes => (buffer.fill hole bytes).map Prod.snd

def Allowed (buffer : SparseByteBuffer) : Event → Prop
  | .findOrCreateHole position hint =>
    buffer.InHole position ∧ ∀ other ∈ hint, ∃ size, buffer.holes.get? other = some size
  | .fill hole bytes =>
    bytes ≠ [] ∧ ∃ position size, hole = some position ∧
      buffer.holes.get? position = some size ∧ bytes.length ≤ size

inductive Piece where
  | hole (position size : Nat)
  | region (position size : Nat)

def Piece.position : Piece → Nat
  | .hole position _ | .region position _ => position

def Piece.size : Piece → Nat
  | .hole _ size | .region _ size => size

def Piece.Contains (piece : Piece) (position : Nat) : Prop :=
  piece.position ≤ position ∧ position < piece.position + piece.size

def HasPiece (buffer : SparseByteBuffer) : Piece → Prop
  | .hole position size => buffer.holes.get? position = some size
  | .region position size => ∃ bytes, buffer.regions.get? position = some bytes ∧
      bytes.length = size

structure PartitionedInto (buffer : SparseByteBuffer) (size : Nat) : Prop where
  positive : ∀ piece, buffer.HasPiece piece → 0 < piece.size
  disjoint : ∀ piece other, buffer.HasPiece piece → buffer.HasPiece other → piece ≠ other →
    ∀ position, piece.Contains position → ¬ other.Contains position
  cover : ∀ position, position < size ↔
    ∃ piece, buffer.HasPiece piece ∧ piece.Contains position

theorem inHole_iff (buffer : SparseByteBuffer) (position : Nat) :
    buffer.InHole position ↔
      ∃ key size, buffer.HasPiece (.hole key size) ∧ (Piece.hole key size).Contains position := by
  rfl

theorem inRegion_iff (buffer : SparseByteBuffer) (position : Nat) :
    buffer.InRegion position ↔
      ∃ key size, buffer.HasPiece (.region key size) ∧
        (Piece.region key size).Contains position := by
  constructor
  · rintro ⟨key, bytes, there, inside⟩
    exact ⟨key, bytes.length, ⟨bytes, there, rfl⟩, inside⟩
  · rintro ⟨key, size, ⟨bytes, there, rfl⟩, inside⟩
    exact ⟨key, bytes, there, inside⟩

theorem Partition.partitionedInto {buffer : SparseByteBuffer} (partition : buffer.Partition) :
    buffer.PartitionedInto buffer.size := by
  refine ⟨?_, ?_, ?_⟩
  · intro piece present
    cases piece with
    | hole key size => exact partition.holes.positive key size present
    | region key size =>
      obtain ⟨bytes, there, rfl⟩ := present
      exact partition.regions.positive key bytes there
  · intro piece other isPiece isOther different position inPiece inOther
    apply different
    cases piece with
    | hole key size =>
      cases other with
      | hole otherKey otherSize =>
        obtain rfl := partition.holes.unique ⟨size, isPiece, inPiece⟩ ⟨otherSize, isOther, inOther⟩
        rw [Option.some.inj (isPiece.symm.trans isOther)]
      | region otherKey otherSize =>
        apply absurd _ (partition.exclusive position ⟨key, size, isPiece, inPiece⟩)
        exact (buffer.inRegion_iff position).mpr ⟨otherKey, otherSize, isOther, inOther⟩
    | region key size =>
      cases other with
      | hole otherKey otherSize =>
        apply absurd _ (partition.exclusive position ⟨otherKey, otherSize, isOther, inOther⟩)
        exact (buffer.inRegion_iff position).mpr ⟨key, size, isPiece, inPiece⟩
      | region otherKey otherSize =>
        obtain ⟨bytes, there, rfl⟩ := isPiece
        obtain ⟨otherBytes, otherThere, rfl⟩ := isOther
        obtain rfl :=
          partition.regions.unique ⟨bytes, there, inPiece⟩ ⟨otherBytes, otherThere, inOther⟩
        rw [Option.some.inj (there.symm.trans otherThere)]
  · intro position
    rw [partition.total, inHole_iff, inRegion_iff]
    constructor
    · rintro (⟨key, size, held⟩ | ⟨key, size, held⟩)
      · exact ⟨_, held⟩
      · exact ⟨_, held⟩
    · rintro ⟨piece, held⟩
      cases piece with
      | hole key size => exact .inl ⟨key, size, held⟩
      | region key size => exact .inr ⟨key, size, held⟩

theorem Partition.step_partition {buffer : SparseByteBuffer} (partition : buffer.Partition)
    (event : Event) (allowed : buffer.Allowed event) :
    ∃ next, buffer.step event = some next ∧ next.Partition ∧ next.size = buffer.size := by
  cases event with
  | findOrCreateHole position hint =>
    obtain ⟨inHole, valid⟩ := allowed
    obtain ⟨next, created, kept, size, -⟩ := partition.findOrCreateHole_spec inHole valid
    exact ⟨next, by simp [step, created], kept, size⟩
  | fill hole bytes =>
    obtain ⟨nonempty, position, size, rfl, there, fits⟩ := allowed
    have free (other : Nat) (lower : position ≤ other) (upper : other < position + bytes.length) :
        buffer.InHole other := ⟨position, size, there, lower, by simp only [id]; omega⟩
    obtain ⟨hole, next, filled, kept, size, -⟩ := partition.fill_spec there nonempty free
    exact ⟨next, by simp [step, filled], kept, size⟩

-- Holes and regions partition the buffer after any sequence of calls that keep to what the
-- callers promise, and no call uses an iterator that points to nothing.
theorem holes_and_regions_partition (size : Nat) (positive : 0 < size) (fits : size < 2 ^ 64)
    (events : List Event) (allowed : Runs.Meets step Allowed (initialized size) events) :
    ∃ buffer, Runs.run step (initialized size) events = some buffer ∧ buffer.size = size ∧
      buffer.PartitionedInto size := by
  obtain ⟨buffer, reached, partition, rfl⟩ := Runs.run_of_step step Allowed
    (fun buffer => buffer.Partition ∧ buffer.size = size)
    (fun buffer event kept allowed => by
      obtain ⟨next, taken, partition, same⟩ := kept.1.step_partition event allowed
      exact ⟨next, taken, partition, same.trans kept.2⟩)
    (initialized size) events ⟨initialized_partition size positive fits, rfl⟩ allowed
  exact ⟨buffer, reached, rfl, partition.partitionedInto⟩

theorem holes_and_regions_partition_ten :
    ∃ buffer, Runs.run step (initialized 10)
        [.findOrCreateHole 4 none, .fill (some 4) [7, 8], .findOrCreateHole 1 (some 6)] =
          some buffer ∧
      buffer.size = 10 ∧ buffer.PartitionedInto 10 := by
  apply holes_and_regions_partition 10 (by decide) (by decide)
  refine ⟨⟨⟨0, 10, rfl, by decide, by decide⟩, nofun⟩, ?_⟩
  rintro first ⟨⟩
  refine ⟨⟨by decide, 4, 6, rfl, rfl, by decide⟩, ?_⟩
  rintro second ⟨⟩
  refine ⟨⟨⟨0, 4, rfl, by decide, by decide⟩, ?_⟩, fun _ _ => trivial⟩
  rintro other ⟨⟩
  exact ⟨4, rfl⟩

end MojoMedia.SparseByteBuffer
