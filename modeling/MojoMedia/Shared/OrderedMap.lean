import Mathlib.Data.List.Basic

set_option autoImplicit false

structure OrderedMap (Value : Type) where
  entries : List (Nat × Value)
  sorted : entries.Pairwise fun first second => first.1 < second.1

namespace OrderedMap

variable {Value : Type}

abbrev Iterator := Option Nat

def empty : OrderedMap Value := ⟨[], .nil⟩

def get? (map : OrderedMap Value) (key : Nat) : Option Value :=
  (map.entries.find? fun entry => entry.1 == key).map Prod.snd

def lowerBound (map : OrderedMap Value) (key : Nat) : Iterator :=
  (map.entries.find? fun entry => key ≤ entry.1).map Prod.fst

def first (map : OrderedMap Value) : Iterator := map.lowerBound 0

def next (map : OrderedMap Value) (key : Nat) : Iterator := map.lowerBound (key + 1)

def previous (map : OrderedMap Value) (iterator : Iterator) : Iterator :=
  (map.entries.reverse.find? fun entry => iterator.all fun key => entry.1 < key).map Prod.fst

def assign (map : OrderedMap Value) (key : Nat) (value : Value) : OrderedMap Value where
  entries := map.entries.filter (fun entry => entry.1 < key) ++
    (key, value) :: map.entries.filter fun entry => key < entry.1
  sorted := by
    refine List.pairwise_append.mpr ⟨map.sorted.filter _, ?_, ?_⟩
    · refine List.pairwise_cons.mpr ⟨?_, map.sorted.filter _⟩
      simp
    · intro before inFront after behind
      simp only [List.mem_filter, decide_eq_true_eq, List.mem_cons] at inFront behind
      rcases behind with rfl | ⟨-, later⟩
      · exact inFront.2
      · exact Nat.lt_trans inFront.2 later

def insert (map : OrderedMap Value) (key : Nat) (value : Value) : OrderedMap Value :=
  match map.get? key with
  | some _ => map
  | none => map.assign key value

def erase (map : OrderedMap Value) (key : Nat) : OrderedMap Value where
  entries := map.entries.filter fun entry => entry.1 ≠ key
  sorted := map.sorted.filter _

theorem get?_eq_some (map : OrderedMap Value) (key : Nat) (value : Value) :
    map.get? key = some value ↔ (key, value) ∈ map.entries := by
  obtain ⟨entries, sorted⟩ := map
  simp only [get?]
  induction entries with
  | nil => simp
  | cons entry rest ih =>
    obtain ⟨later, sortedRest⟩ := List.pairwise_cons.mp sorted
    by_cases here : entry.1 = key
    · have none : ∀ other, (key, other) ∉ rest := by
        intro other behind
        exact Nat.lt_irrefl key (by simpa [here] using later _ behind)
      obtain ⟨first, second⟩ := entry
      simp only at here
      subst here
      simp [none, eq_comm]
    · have other : (entry.1 == key) = false := by simpa using here
      rw [List.find?_cons_of_neg (by simpa using here), ih sortedRest, List.mem_cons]
      constructor
      · exact .inr
      · rintro (rfl | behind)
        · exact absurd rfl here
        · exact behind

@[simp] theorem get?_empty (key : Nat) : (empty : OrderedMap Value).get? key = none := rfl

@[simp] theorem get?_assign (map : OrderedMap Value) (key other : Nat) (value : Value) :
    (map.assign key value).get? other = if other = key then some value else map.get? other := by
  ext found
  rw [get?_eq_some]
  simp only [assign, List.mem_append, List.mem_filter, List.mem_cons, decide_eq_true_eq,
    Prod.mk.injEq]
  by_cases same : other = key
  · simp [same, eq_comm]
  · rw [if_neg same, get?_eq_some]
    constructor
    · rintro (⟨there, -⟩ | ⟨equal, -⟩ | ⟨there, -⟩)
      · exact there
      · exact absurd equal same
      · exact there
    · intro there
      rcases Nat.lt_or_gt_of_ne same with below | above
      · exact .inl ⟨there, below⟩
      · exact .inr (.inr ⟨there, above⟩)

theorem get?_insert (map : OrderedMap Value) (key other : Nat) (value : Value)
    (absent : map.get? key = none) :
    (map.insert key value).get? other = if other = key then some value else map.get? other := by
  simp [insert, absent]

@[simp] theorem get?_erase (map : OrderedMap Value) (key other : Nat) :
    (map.erase key).get? other = if other = key then none else map.get? other := by
  ext found
  rw [get?_eq_some]
  simp only [erase, List.mem_filter, ne_eq, decide_eq_true_eq]
  by_cases same : other = key
  · simp [same]
  · rw [if_neg same, get?_eq_some]
    simp [same]

theorem countP_assign (map : OrderedMap Value) (key : Nat) (value : Value)
    (counted : Nat × Value → Bool) (absent : map.get? key = none) :
    (map.assign key value).entries.countP counted =
      map.entries.countP counted + if counted (key, value) then 1 else 0 := by
  have behind : map.entries.filter (fun entry => key < entry.1) =
      map.entries.filter (fun entry => !decide (entry.1 < key)) := by
    apply List.filter_congr
    intro entry inside
    have other : entry.1 ≠ key := by
      intro same
      have found := (map.get?_eq_some key entry.2).mpr (same ▸ inside)
      cases absent.symm.trans found
    simp only [← decide_not, decide_eq_decide]
    omega
  have split := List.filter_append_perm (fun entry => decide (entry.1 < key)) map.entries
  have parts := split.countP_eq counted
  rw [List.countP_append, ← behind] at parts
  simp only [assign, List.countP_append, List.countP_cons]
  omega

theorem filter_key (map : OrderedMap Value) (key : Nat) (value : Value)
    (found : map.get? key = some value) :
    map.entries.filter (fun entry => entry.1 = key) = [(key, value)] := by
  have inside := (map.get?_eq_some key value).mp found
  obtain ⟨entries, sorted⟩ := map
  simp only at inside ⊢
  clear found
  induction entries with
  | nil => cases inside
  | cons entry rest ih =>
    obtain ⟨later, sortedRest⟩ := List.pairwise_cons.mp sorted
    rcases List.mem_cons.mp inside with rfl | behind
    · have none : rest.filter (fun entry => entry.1 = key) = [] := by
        rw [List.filter_eq_nil_iff]
        intro other there same
        have above := later other there
        simp only [decide_eq_true_eq] at same
        omega
      simp [none]
    · have above := later _ behind
      rw [List.filter_cons_of_neg (by simpa using Nat.ne_of_lt above), ih sortedRest behind]

theorem countP_erase (map : OrderedMap Value) (key : Nat) (value : Value)
    (counted : Nat × Value → Bool) (found : map.get? key = some value) :
    (map.erase key).entries.countP counted + (if counted (key, value) then 1 else 0) =
      map.entries.countP counted := by
  have split := List.filter_append_perm (fun entry => decide (entry.1 = key)) map.entries
  have parts := split.countP_eq counted
  rw [List.countP_append, filter_key map key value found, List.countP_singleton] at parts
  simp only [erase, ne_eq, decide_not]
  omega

theorem find?_first {Entry : Type} {before : Entry → Entry → Prop} {wanted : Entry → Bool}
    {entries : List Entry} {found : Entry} (sorted : entries.Pairwise before)
    (search : entries.find? wanted = some found) :
    found ∈ entries ∧ wanted found ∧ ∀ other ∈ entries, wanted other → other = found ∨
      before found other := by
  obtain ⟨isWanted, front, back, rfl, skipped⟩ := List.find?_eq_some_iff_append.mp search
  refine ⟨by simp, isWanted, ?_⟩
  intro other inside otherWanted
  rcases List.mem_append.mp inside with inFront | behind
  · exact absurd otherWanted (by simpa using skipped other inFront)
  · rcases List.mem_cons.mp behind with same | later
    · exact .inl same
    · have sortedBack := (List.pairwise_append.mp sorted).2.1
      exact .inr ((List.pairwise_cons.mp sortedBack).1 other later)

theorem lowerBound_eq_some (map : OrderedMap Value) (key found : Nat)
    (search : map.lowerBound key = some found) :
    (∃ value, map.get? found = some value) ∧ key ≤ found ∧
      ∀ other value, map.get? other = some value → key ≤ other → found ≤ other := by
  obtain ⟨entry, isFound, rfl⟩ := Option.map_eq_some_iff.mp search
  obtain ⟨there, above, least⟩ := find?_first map.sorted isFound
  refine ⟨⟨entry.2, (map.get?_eq_some _ _).mpr there⟩, by simpa using above, ?_⟩
  intro other value inside otherAbove
  rcases least _ ((map.get?_eq_some _ _).mp inside) (by simpa using otherAbove) with same | less
  · exact Nat.le_of_eq (congrArg Prod.fst same).symm
  · exact Nat.le_of_lt less

theorem lowerBound_eq_none (map : OrderedMap Value) (key : Nat) (none : map.lowerBound key = none)
    (other : Nat) (value : Value) (there : map.get? other = some value) : other < key := by
  rw [get?_eq_some] at there
  have missing := List.find?_eq_none.mp (Option.map_eq_none_iff.mp none) _ there
  simpa using missing

theorem lowerBound_congr {Other : Type} {map : OrderedMap Value} {other : OrderedMap Other}
    {key otherKey : Nat}
    (same : ∀ found, (∃ value, map.get? found = some value) ∧ key ≤ found ↔
      (∃ value, other.get? found = some value) ∧ otherKey ≤ found) :
    map.lowerBound key = other.lowerBound otherKey := by
  cases isFound : map.lowerBound key with
  | none =>
    cases isOther : other.lowerBound otherKey with
    | none => rfl
    | some found =>
      obtain ⟨there, above, -⟩ := lowerBound_eq_some other otherKey found isOther
      obtain ⟨⟨value, present⟩, atLeast⟩ := (same found).mpr ⟨there, above⟩
      have below := lowerBound_eq_none map key isFound found value present
      omega
  | some found =>
    obtain ⟨there, above, least⟩ := lowerBound_eq_some map key found isFound
    obtain ⟨⟨value, present⟩, atLeast⟩ := (same found).mp ⟨there, above⟩
    cases isOther : other.lowerBound otherKey with
    | none =>
      have below := lowerBound_eq_none other otherKey isOther found value present
      omega
    | some otherFound =>
      obtain ⟨otherThere, otherAbove, otherLeast⟩ :=
        lowerBound_eq_some other otherKey otherFound isOther
      obtain ⟨⟨otherValue, otherPresent⟩, further⟩ := (same otherFound).mpr ⟨otherThere, otherAbove⟩
      have first := least otherFound otherValue otherPresent further
      have second := otherLeast found value present atLeast
      rw [Nat.le_antisymm first second]

def firstFrom (map : OrderedMap Value) (key : Nat) : Iterator :=
  (map.lowerBound key).or map.first

def FirstFrom (map : OrderedMap Value) (key found : Nat) : Prop :=
  (∃ value, map.get? found = some value) ∧
    ((key ≤ found ∧ ∀ other value, map.get? other = some value → key ≤ other → found ≤ other) ∨
      ∀ other value, map.get? other = some value → other < key ∧ found ≤ other)

theorem firstFrom_eq_some (map : OrderedMap Value) (key found : Nat)
    (search : map.firstFrom key = some found) : map.FirstFrom key found := by
  cases isBound : map.lowerBound key with
  | some bound =>
    rw [firstFrom, isBound, Option.some_or] at search
    obtain rfl := Option.some.inj search
    obtain ⟨there, above, least⟩ := lowerBound_eq_some map key bound isBound
    exact ⟨there, .inl ⟨above, least⟩⟩
  | none =>
    rw [firstFrom, isBound, Option.none_or] at search
    obtain ⟨there, -, least⟩ := lowerBound_eq_some map 0 found search
    refine ⟨there, .inr ?_⟩
    intro other value present
    exact ⟨lowerBound_eq_none map key isBound other value present,
      least other value present (Nat.zero_le _)⟩

theorem firstFrom_eq_none (map : OrderedMap Value) (key : Nat) :
    map.firstFrom key = none ↔ ∀ other, map.get? other = none := by
  constructor
  · intro missing other
    have none := (Option.or_eq_none_iff.mp missing).2
    cases found : map.get? other with
    | none => rfl
    | some value =>
      exact absurd (lowerBound_eq_none map 0 none other value found) (Nat.not_lt_zero other)
  · intro nothing
    cases search : map.firstFrom key with
    | none => rfl
    | some found =>
      obtain ⟨⟨value, there⟩, -⟩ := firstFrom_eq_some map key found search
      cases (nothing found).symm.trans there

theorem next_or_first_erase (map : OrderedMap Value) {key later : Nat} (after : key < later)
    (gap : ∀ found, key < found → found < later → map.get? found = none) :
    (map.next key).or (map.erase key).first = (map.erase key).firstFrom later := by
  rw [firstFrom, next]
  congr 1
  apply lowerBound_congr
  intro found
  rw [get?_erase]
  constructor
  · rintro ⟨⟨value, there⟩, behind⟩
    rw [if_neg (by omega)]
    refine ⟨⟨value, there⟩, ?_⟩
    by_contra inGap
    rw [gap found behind (by omega)] at there
    cases there
  · rintro ⟨there, behind⟩
    rw [if_neg (by omega)] at there
    exact ⟨there, by omega⟩

theorem previous_eq_some (map : OrderedMap Value) (iterator : Iterator) (found : Nat)
    (search : map.previous iterator = some found) :
    (∃ value, map.get? found = some value) ∧ (∀ key ∈ iterator, found < key) ∧
      ∀ other value, map.get? other = some value → (∀ key ∈ iterator, other < key) →
        other ≤ found := by
  obtain ⟨entry, isFound, rfl⟩ := Option.map_eq_some_iff.mp search
  obtain ⟨there, below, greatest⟩ := find?_first (List.pairwise_reverse.mpr map.sorted) isFound
  rw [List.mem_reverse] at there
  refine ⟨⟨entry.2, (map.get?_eq_some _ _).mpr there⟩,
    by simpa [Option.all_eq_true] using below, ?_⟩
  intro other value inside otherBelow
  have member := List.mem_reverse.mpr ((map.get?_eq_some _ _).mp inside)
  rcases greatest _ member (by simpa [Option.all_eq_true] using otherBelow) with same | less
  · exact Nat.le_of_eq (congrArg Prod.fst same)
  · exact Nat.le_of_lt less

theorem previous_eq_none (map : OrderedMap Value) (iterator : Iterator)
    (none : map.previous iterator = none) (other : Nat) (value : Value)
    (there : map.get? other = some value) : ∃ key ∈ iterator, key ≤ other := by
  rw [get?_eq_some] at there
  have missing := List.find?_eq_none.mp (Option.map_eq_none_iff.mp none) _
    (List.mem_reverse.mpr there)
  cases iterator with
  | none => simp at missing
  | some key => exact ⟨key, rfl, by simpa using missing⟩

def mapValues {Other : Type} (map : OrderedMap Value) (change : Value → Other) :
    OrderedMap Other where
  entries := map.entries.map fun entry => (entry.1, change entry.2)
  sorted := List.pairwise_map.mpr map.sorted

section

variable {Other : Type} (map : OrderedMap Value) (change : Value → Other)

theorem eq_of_entries {first second : OrderedMap Value} (same : first.entries = second.entries) :
    first = second := by
  cases first
  cases second
  cases same
  rfl

@[simp] theorem get?_mapValues (key : Nat) :
    (map.mapValues change).get? key = (map.get? key).map change := by
  simp only [get?, mapValues, List.find?_map, Option.map_map]
  rfl

@[simp] theorem lowerBound_mapValues (key : Nat) :
    (map.mapValues change).lowerBound key = map.lowerBound key := by
  simp only [lowerBound, mapValues, List.find?_map, Option.map_map]
  rfl

@[simp] theorem first_mapValues : (map.mapValues change).first = map.first :=
  map.lowerBound_mapValues change 0

@[simp] theorem next_mapValues (key : Nat) : (map.mapValues change).next key = map.next key :=
  map.lowerBound_mapValues change (key + 1)

@[simp] theorem previous_mapValues (iterator : Iterator) :
    (map.mapValues change).previous iterator = map.previous iterator := by
  simp only [previous, mapValues, ← List.map_reverse, List.find?_map, Option.map_map]
  rfl

theorem mapValues_assign (key : Nat) (value : Value) :
    (map.assign key value).mapValues change = (map.mapValues change).assign key (change value) := by
  apply eq_of_entries
  simp only [mapValues, assign, List.map_append, List.map_cons, List.filter_map]
  rfl

theorem mapValues_insert (key : Nat) (value : Value) :
    (map.insert key value).mapValues change = (map.mapValues change).insert key (change value) := by
  cases found : map.get? key with
  | none => simp [insert, found, mapValues_assign]
  | some other => simp [insert, found]

end

end OrderedMap
