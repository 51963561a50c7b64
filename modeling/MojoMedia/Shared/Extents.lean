import MojoMedia.Shared.OrderedMap

set_option autoImplicit false

namespace Extents

open OrderedMap

variable {Value : Type} (length : Value → Nat)

def Holds (map : OrderedMap Value) (key position : Nat) : Prop :=
  ∃ value, map.get? key = some value ∧ key ≤ position ∧ position < key + length value

def Covered (map : OrderedMap Value) (position : Nat) : Prop :=
  ∃ key, Holds length map key position

structure Apart (map : OrderedMap Value) : Prop where
  positive : ∀ key value, map.get? key = some value → 0 < length value
  apart : ∀ key value other otherValue, map.get? key = some value →
    map.get? other = some otherValue → key < other → key + length value ≤ other

variable {length} {map : OrderedMap Value}

theorem Apart.holds_key (separate : Apart length map) {key : Nat} {value : Value}
    (there : map.get? key = some value) : Holds length map key key := by
  have positive := separate.positive key value there
  exact ⟨value, there, Nat.le_refl _, by omega⟩

theorem Apart.unique (separate : Apart length map) {key other position : Nat}
    (here : Holds length map key position) (there : Holds length map other position) :
    key = other := by
  obtain ⟨value, isValue, lower, upper⟩ := here
  obtain ⟨otherValue, isOther, otherLower, otherUpper⟩ := there
  rcases Nat.lt_trichotomy key other with below | same | above
  · have gap := separate.apart key value other otherValue isValue isOther below
    omega
  · exact same
  · have gap := separate.apart other otherValue key value isOther isValue above
    omega

theorem apart_empty : Apart length (empty : OrderedMap Value) := by
  refine ⟨?_, ?_⟩
  · simp
  · simp

theorem Apart.get?_none (separate : Apart length map) {key position : Nat}
    (here : Holds length map key position) (inside : key ≠ position) :
    map.get? position = none := by
  cases found : map.get? position with
  | none => rfl
  | some value => exact absurd (separate.unique here (separate.holds_key found)) inside

theorem holds_assign_iff (key : Nat) (value : Value) (other position : Nat) :
    Holds length (map.assign key value) other position ↔
      if other = key then key ≤ position ∧ position < key + length value
      else Holds length map other position := by
  by_cases same : other = key
  · simp [Holds, same]
  · simp [Holds, same]

theorem insert_eq_assign {key : Nat} (value : Value) (absent : map.get? key = none) :
    map.insert key value = map.assign key value := by
  simp [OrderedMap.insert, absent]

theorem Apart.assign (separate : Apart length map) {key : Nat} {value : Value}
    (positive : 0 < length value)
    (free : ∀ position, key ≤ position → position < key + length value →
      ∀ other, other ≠ key → ¬ Holds length map other position) :
    Apart length (map.assign key value) := by
  refine ⟨?_, ?_⟩
  · intro other found there
    rw [get?_assign] at there
    split at there
    next => exact (Option.some.inj there) ▸ positive
    next => exact separate.positive other found there
  · intro first firstValue second secondValue isFirst isSecond below
    rw [get?_assign] at isFirst isSecond
    by_cases isKey : first = key
    · rw [if_pos isKey] at isFirst
      obtain rfl := Option.some.inj isFirst
      rw [if_neg (by omega)] at isSecond
      by_contra overlap
      exact free second (by omega) (by omega) second (by omega) (separate.holds_key isSecond)
    · rw [if_neg isKey] at isFirst
      by_cases isOther : second = key
      · by_contra overlap
        exact free key (Nat.le_refl _) (by omega) first isKey
          ⟨firstValue, isFirst, by omega, by omega⟩
      · rw [if_neg isOther] at isSecond
        exact separate.apart first firstValue second secondValue isFirst isSecond below

def search (map : OrderedMap Value) (position : Nat) (passed : Nat → Value → Bool) :
    Option Iterator :=
  let iterator := map.lowerBound position
  if iterator ≠ map.first ∧ iterator.all (position < ·) then do
    let key ← map.previous iterator
    let value ← map.get? key
    some (if passed key value then none else some key)
  else some iterator

theorem search_mapValues {Other : Type} (map : OrderedMap Value) (change : Value → Other)
    (position : Nat) (passed : Nat → Value → Bool) (otherPassed : Nat → Other → Bool)
    (same : ∀ key value, otherPassed key (change value) = passed key value) :
    search (map.mapValues change) position otherPassed = search map position passed := by
  simp only [search, lowerBound_mapValues, first_mapValues, previous_mapValues, get?_mapValues]
  split
  next =>
    cases map.previous (map.lowerBound position) with
    | none => rfl
    | some key =>
      simp only [Option.bind_eq_bind, Option.bind_some]
      cases map.get? key with
      | none => rfl
      | some value => simp [same]
  next => rfl

theorem first_le (map : OrderedMap Value) {key : Nat} {value : Value}
    (there : map.get? key = some value) : ∃ found, map.first = some found ∧ found ≤ key := by
  cases search : map.first with
  | none => exact absurd (lowerBound_eq_none map 0 search key value there) (Nat.not_lt_zero _)
  | some found =>
    exact ⟨found, rfl, (lowerBound_eq_some map 0 found search).2.2 key value there
      (Nat.zero_le _)⟩

theorem lowerBound_below (map : OrderedMap Value) (position : Nat) {key : Nat} {value : Value}
    (there : map.get? key = some value)
    (below : ∀ bound ∈ map.lowerBound position, key < bound) : key < position := by
  cases search : map.lowerBound position with
  | none => exact lowerBound_eq_none map position search key value there
  | some bound =>
    have least := (lowerBound_eq_some map position bound search).2.2 key value there
    have before := below bound search
    omega

theorem search_eq (map : OrderedMap Value) (position key : Nat) (value : Value)
    (passed : Nat → Value → Bool) (there : map.get? key = some value) (atMost : key ≤ position)
    (last : ∀ other value, map.get? other = some value → other ≤ position → other ≤ key)
    (reached : key = position → passed key value = false) :
    search map position passed = some (if passed key value then none else some key) := by
  have bounds : ∀ bound ∈ map.lowerBound position, position ≤ bound ∧
      (position < bound ∨ bound = key) := by
    intro bound isBound
    obtain ⟨⟨boundValue, found⟩, above, -⟩ := lowerBound_eq_some map position bound isBound
    have notBetween := last bound boundValue found
    omega
  by_cases here : key = position
  · obtain ⟨bound, isBound⟩ : ∃ bound, map.lowerBound position = some bound := by
      cases isBound : map.lowerBound position with
      | none =>
        have missed := lowerBound_eq_none map position isBound key value there
        omega
      | some bound => exact ⟨bound, rfl⟩
    have least := (lowerBound_eq_some map position bound isBound).2.2 key value there
      (Nat.le_of_eq here.symm)
    have above := (bounds bound isBound).1
    obtain rfl : bound = key := by omega
    rw [search, isBound, if_neg (by simp [here]), reached here]
    rfl
  · have skipped : map.lowerBound position ≠ map.first ∧
        (map.lowerBound position).all (position < ·) := by
      obtain ⟨start, isStart, before⟩ := first_le map there
      refine ⟨?_, ?_⟩
      · intro same
        have above := (bounds start (by rw [same, isStart]; rfl)).1
        omega
      · simp only [Option.all_eq_true, decide_eq_true_eq]
        intro bound isBound
        have := bounds bound isBound
        omega
    have found : map.previous (map.lowerBound position) = some key := by
      cases isFound : map.previous (map.lowerBound position) with
      | none =>
        obtain ⟨bound, isBound, before⟩ := previous_eq_none map _ isFound key value there
        have := (bounds bound isBound).1
        omega
      | some found =>
        obtain ⟨⟨foundValue, inside⟩, below, greatest⟩ := previous_eq_some map _ found isFound
        have before := lowerBound_below map position inside below
        have notAfter := last found foundValue inside (by omega)
        have notBefore := greatest key value there (fun bound isBound => by
          have := (bounds bound isBound).1
          omega)
        rw [Nat.le_antisymm notAfter notBefore]
    rw [search, if_pos skipped, found]
    simp [there]

theorem Apart.last_of_holds (separate : Apart length map) {key position : Nat}
    (here : Holds length map key position) (other : Nat) (otherValue : Value)
    (there : map.get? other = some otherValue) (atMost : other ≤ position) : other ≤ key := by
  obtain ⟨value, isValue, lower, upper⟩ := here
  by_contra above
  have gap := separate.apart key value other otherValue isValue there (by omega)
  omega

theorem exists_last (map : OrderedMap Value) (position : Nat) {start : Nat} {startValue : Value}
    (begins : map.get? start = some startValue) (atMost : start ≤ position) :
    ∃ key value, map.get? key = some value ∧ key ≤ position ∧
      ∀ other value, map.get? other = some value → other ≤ position → other ≤ key := by
  cases isFound : map.previous (some (position + 1)) with
  | none =>
    obtain ⟨bound, isBound, before⟩ := previous_eq_none map _ isFound start startValue begins
    obtain rfl : position + 1 = bound := Option.some.inj isBound
    omega
  | some found =>
    obtain ⟨⟨value, inside⟩, below, greatest⟩ := previous_eq_some map _ found isFound
    refine ⟨found, value, inside, Nat.lt_succ_iff.mp (below _ rfl), ?_⟩
    intro other otherValue there before
    refine greatest other otherValue there ?_
    intro bound isBound
    obtain rfl : position + 1 = bound := Option.some.inj isBound
    omega

theorem search_of_empty (map : OrderedMap Value) (position : Nat) (passed : Nat → Value → Bool)
    (nothing : ∀ key, map.get? key = none) : search map position passed = some none := by
  have noEntry (key : Nat) : map.lowerBound key = none := by
    cases isFound : map.lowerBound key with
    | none => rfl
    | some found =>
      obtain ⟨⟨value, inside⟩, -⟩ := lowerBound_eq_some map key found isFound
      rw [nothing found] at inside
      cases inside
  rw [search, OrderedMap.first, noEntry, noEntry]
  simp

theorem search_of_later (map : OrderedMap Value) (position : Nat) (passed : Nat → Value → Bool)
    (later : ∀ key value, map.get? key = some value → position < key) :
    search map position passed = some map.first := by
  have same : map.lowerBound position = map.first := by
    cases isFirst : map.first with
    | none =>
      cases isBound : map.lowerBound position with
      | none => rfl
      | some bound =>
        obtain ⟨⟨value, there⟩, -⟩ := lowerBound_eq_some map position bound isBound
        obtain ⟨start, isStart, -⟩ := first_le map there
        cases isFirst.symm.trans isStart
    | some start =>
      obtain ⟨⟨value, begins⟩, -, least⟩ := lowerBound_eq_some map 0 start isFirst
      have after := later start value begins
      cases isBound : map.lowerBound position with
      | none =>
        have before := lowerBound_eq_none map position isBound start value begins
        omega
      | some bound =>
        obtain ⟨⟨boundValue, there⟩, -, nearest⟩ := lowerBound_eq_some map position bound isBound
        have first := least bound boundValue there (Nat.zero_le _)
        have second := nearest start value begins (Nat.le_of_lt after)
        rw [Nat.le_antisymm second first]
  rw [search, same]
  simp

end Extents
