import Mathlib.Data.List.Nodup
import Mathlib.Data.List.Perm.Subperm

set_option autoImplicit false

namespace Orbits

universe u

variable {Value : Type u} (next : Value → Option Value)

def follow : Nat → Value → Option Value
  | 0, value => some value
  | count + 1, value => (next value).bind (follow count)

inductive Follows : Value → List Value → Prop where
  | last {value : Value} (ends : next value = none) : Follows value [value]
  | step {value successor : Value} {path : List Value} (goes : next value = some successor)
      (rest : Follows successor path) : Follows value (value :: path)

variable {next}

theorem follow_add (first second : Nat) (value : Value) :
    follow next (first + second) value = (follow next first value).bind (follow next second) := by
  induction first generalizing value with
  | zero => simp [follow]
  | succ first ih =>
    rw [Nat.succ_add]
    simp only [follow]
    cases next value with
    | none => rfl
    | some successor => exact ih successor

theorem follow_succ {count : Nat} {value reached : Value}
    (found : follow next (count + 1) value = some reached) :
    ∃ before, follow next count value = some before ∧ next before = some reached := by
  rw [follow_add, Option.bind_eq_some_iff] at found
  simpa [follow] using found

section

variable (injective : ∀ first second successor, next first = some successor →
  next second = some successor → first = second)

include injective

theorem follow_injective {count : Nat} {first second reached : Value}
    (fromFirst : follow next count first = some reached)
    (fromSecond : follow next count second = some reached) : first = second := by
  induction count generalizing first second with
  | zero => exact Option.some.inj (fromFirst.trans fromSecond.symm)
  | succ count ih =>
    simp only [follow, Option.bind_eq_some_iff] at fromFirst fromSecond
    obtain ⟨successor, goesFirst, fromFirst⟩ := fromFirst
    obtain ⟨other, goesSecond, fromSecond⟩ := fromSecond
    obtain rfl := ih fromFirst fromSecond
    exact injective first second successor goesFirst goesSecond

theorem follow_distinct {start : Value} (unreached : ∀ value, next value ≠ some start)
    {earlier later : Nat} (order : earlier < later) {reached : Value}
    (found : follow next earlier start = some reached) :
    follow next later start ≠ some reached := by
  intro again
  obtain ⟨gap, rfl⟩ : ∃ gap, later = (gap + 1) + earlier := ⟨later - earlier - 1, by omega⟩
  rw [follow_add, Option.bind_eq_some_iff] at again
  obtain ⟨middle, toMiddle, again⟩ := again
  obtain rfl := follow_injective injective found again
  obtain ⟨before, -, goes⟩ := follow_succ toMiddle
  exact unreached before goes

end

theorem Follows.getElem? {start : Value} {path : List Value} (follows : Follows next start path)
    {index : Nat} (inside : index < path.length) : path[index]? = follow next index start := by
  induction follows generalizing index with
  | last ends =>
    obtain rfl : index = 0 := by simpa using inside
    rfl
  | step goes rest ih =>
    cases index with
    | zero => rfl
    | succ index => simpa [follow, goes] using ih (by simpa using inside)

theorem Follows.nodup {start : Value} {path : List Value} (follows : Follows next start path)
    (injective : ∀ first second successor, next first = some successor →
      next second = some successor → first = second)
    (unreached : ∀ value, next value ≠ some start) : path.Nodup := by
  rw [List.nodup_iff_getElem?_ne_getElem?]
  intro earlier later order inside same
  have early : earlier < path.length := Nat.lt_trans order inside
  have found : follow next earlier start = some path[earlier] := by
    rw [← follows.getElem? early, List.getElem?_eq_getElem early]
  apply follow_distinct injective unreached order found
  rw [← follows.getElem? inside, ← same, List.getElem?_eq_getElem early]

theorem follows_of_follow {count : Nat} {start : Value} (ends : follow next count start = none) :
    ∃ path, Follows next start path ∧ path.length ≤ count := by
  induction count generalizing start with
  | zero => cases ends
  | succ count ih =>
    cases goes : next start with
    | none => exact ⟨[start], .last goes, by simp⟩
    | some successor =>
      simp only [follow, goes, Option.bind_some] at ends
      obtain ⟨path, follows, short⟩ := ih ends
      exact ⟨start :: path, .step goes follows, by simpa using short⟩

theorem follow_within {start : Value} {values : List Value} (first : start ∈ values)
    (within : ∀ value successor, next value = some successor → successor ∈ values) (count : Nat)
    {reached : Value} (found : follow next count start = some reached) : reached ∈ values := by
  cases count with
  | zero => exact Option.some.inj found ▸ first
  | succ count =>
    obtain ⟨before, -, goes⟩ := follow_succ found
    exact within before reached goes

theorem exists_follows {start : Value} {values : List Value} (first : start ∈ values)
    (within : ∀ value successor, next value = some successor → successor ∈ values)
    (injective : ∀ first second successor, next first = some successor →
      next second = some successor → first = second)
    (unreached : ∀ value, next value ≠ some start) :
    ∃ path, Follows next start path ∧ path.Nodup ∧ path.length ≤ values.length := by
  have ends : follow next values.length start = none := by
    by_contra goesOn
    -- More values would be reached than there are.
    have reaches : ∀ count ≤ values.length, ∃ reached, follow next count start = some reached := by
      intro count bound
      obtain ⟨rest, total⟩ := Nat.exists_eq_add_of_le bound
      rw [total, follow_add] at goesOn
      cases found : follow next count start with
      | none => simp [found] at goesOn
      | some reached => exact ⟨reached, rfl⟩
    let reached := (List.range (values.length + 1)).filterMap fun count => follow next count start
    have length : reached.length = values.length + 1 := by
      rw [List.length_filterMap_eq_countP, List.countP_eq_length.mpr, List.length_range]
      intro count member
      obtain ⟨value, found⟩ := reaches count (Nat.le_of_lt_succ (List.mem_range.mp member))
      simp [found]
    have distinct : reached.Nodup := by
      refine List.Nodup.filterMap ?_ List.nodup_range
      intro one other value found same
      rcases Nat.lt_trichotomy one other with order | equal | order
      · exact absurd same (follow_distinct injective unreached order found)
      · exact equal
      · exact absurd found (follow_distinct injective unreached order same)
    have inside : reached ⊆ values := by
      intro value member
      obtain ⟨count, -, found⟩ := List.mem_filterMap.mp member
      exact follow_within first within count found
    have := (distinct.subperm inside).length_le
    omega
  obtain ⟨path, follows, short⟩ := follows_of_follow ends
  exact ⟨path, follows, follows.nodup injective unreached, short⟩

theorem Follows.mem_cases {start : Value} {path : List Value} (follows : Follows next start path)
    {value : Value} (member : value ∈ path) :
    value = start ∨ ∃ before ∈ path, next before = some value := by
  induction follows with
  | last ends => exact .inl (List.mem_singleton.mp member)
  | @step first successor path goes rest ih =>
    rcases List.mem_cons.mp member with rfl | later
    · exact .inl rfl
    · rcases ih later with rfl | ⟨before, earlier, leads⟩
      · exact .inr ⟨first, List.mem_cons_self, goes⟩
      · exact .inr ⟨before, List.mem_cons_of_mem _ earlier, leads⟩

theorem Follows.mem_next {start : Value} {path : List Value} (follows : Follows next start path)
    {value successor : Value} (member : value ∈ path) (goes : next value = some successor) :
    successor ∈ path := by
  have head {first : Value} {rest : List Value} (onwards : Follows next first rest) :
      first ∈ rest := by
    cases onwards <;> exact List.mem_cons_self
  induction follows with
  | last ends =>
    rw [List.mem_singleton.mp member, ends] at goes
    cases goes
  | step leads rest ih =>
    rcases List.mem_cons.mp member with rfl | later
    · obtain rfl := Option.some.inj (leads.symm.trans goes)
      exact List.mem_cons_of_mem _ (head rest)
    · exact List.mem_cons_of_mem _ (ih later)

end Orbits
