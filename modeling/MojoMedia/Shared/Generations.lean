import MojoMedia.Shared.MachineInt
import Mathlib.Algebra.Group.Nat.Defs
import Mathlib.Logic.Function.Iterate
import Mathlib.Tactic.Common

set_option autoImplicit false

namespace Generations

def bump (generation : UInt32) : UInt32 :=
  if generation + 1 = 0 then 1 else generation + 1

theorem bump_ne_zero (generation : UInt32) : bump generation ≠ 0 := by
  unfold bump
  split
  · decide
  · assumption

theorem bump_toNat (generation : UInt32) (valid : generation ≠ 0) :
    (bump generation).toNat = generation.toNat % (2 ^ 32 - 1) + 1 := by
  have positive := MachineInt.toNat_pos generation valid
  have bound := generation.toNat_lt
  have sum : (generation + 1).toNat = (generation.toNat + 1) % 2 ^ 32 := UInt32.toNat_add _ _
  unfold bump
  split
  next zero =>
    have last : (generation.toNat + 1) % 2 ^ 32 = 0 := by
      rw [← sum, zero]
      rfl
    have full : generation.toNat = 2 ^ 32 - 1 := by omega
    rw [full]
    rfl
  next nonzero =>
    have inside := MachineInt.toNat_pos _ nonzero
    rw [sum] at inside ⊢
    omega

theorem bump_ne_self (generation : UInt32) : bump generation ≠ generation := by
  intro same
  unfold bump at same
  split at same
  next wrapped =>
    rw [← same] at wrapped
    exact absurd wrapped (by decide)
  next =>
    have counted := congrArg UInt32.toNat same
    have bound := generation.toNat_lt
    rw [UInt32.toNat_add] at counted
    simp only [UInt32.reduceToNat] at counted
    omega

theorem iterate_bump_ne_zero (generation : UInt32) (valid : generation ≠ 0) (count : Nat) :
    bump^[count] generation ≠ 0 := by
  cases count with
  | zero => exact valid
  | succ count =>
    rw [Function.iterate_succ_apply']
    exact bump_ne_zero _

theorem iterate_bump_toNat (generation : UInt32) (valid : generation ≠ 0) (count : Nat) :
    (bump^[count] generation).toNat = (generation.toNat - 1 + count) % (2 ^ 32 - 1) + 1 := by
  have positive := MachineInt.toNat_pos generation valid
  have bound := generation.toNat_lt
  induction count with
  | zero =>
    rw [Function.iterate_zero_apply]
    omega
  | succ count ih =>
    rw [Function.iterate_succ_apply', bump_toNat _ (iterate_bump_ne_zero generation valid count),
      ih]
    omega

theorem eq_zero_of_iterate_bump (generation : UInt32) (valid : generation ≠ 0) (count : Nat)
    (few : count < 2 ^ 32 - 1) (same : bump^[count] generation = generation) : count = 0 := by
  have positive := MachineInt.toNat_pos generation valid
  have bound := generation.toNat_lt
  have position := iterate_bump_toNat generation valid count
  rw [same] at position
  omega

section Counted

universe u v w

variable {State : Type u} {Event : Type v} {Value : Type w}

def total (step : State → Event → State) (advances : State → Event → Nat) :
    State → List Event → Nat
  | _, [] => 0
  | state, event :: rest => advances state event + total step advances (step state event) rest

structure Counted (step : State → Event → State) (advances : State → Event → Nat)
    (generation : State → UInt32) (value : State → Value) : Prop where
  advanced : ∀ state event,
    generation (step state event) = bump^[advances state event] (generation state)
  unchanged : ∀ state event, advances state event = 0 → value (step state event) = value state

variable {step : State → Event → State} {advances : State → Event → Nat}
  {generation : State → UInt32} {value : State → Value}

theorem Counted.run_advanced (counted : Counted step advances generation value) (state : State)
    (events : List Event) :
    generation (events.foldl step state) =
      bump^[total step advances state events] (generation state) := by
  induction events generalizing state with
  | nil => rfl
  | cons event rest ih =>
    rw [List.foldl_cons, ih, counted.advanced, ← Function.iterate_add_apply, total, Nat.add_comm]

theorem Counted.run_unchanged (counted : Counted step advances generation value) (state : State)
    (events : List Event) (still : total step advances state events = 0) :
    value (events.foldl step state) = value state := by
  induction events generalizing state with
  | nil => rfl
  | cons event rest ih =>
    rw [total, Nat.add_eq_zero_iff] at still
    rw [List.foldl_cons, ih _ still.2, counted.unchanged _ _ still.1]

theorem Counted.same_value (counted : Counted step advances generation value) (state : State)
    (events : List Event) (valid : generation state ≠ 0)
    (few : total step advances state events < 2 ^ 32 - 1)
    (same : generation (events.foldl step state) = generation state) :
    value (events.foldl step state) = value state := by
  apply counted.run_unchanged
  apply eq_zero_of_iterate_bump (generation state) valid _ few
  rw [← counted.run_advanced, same]

end Counted

section Stamped

variable {stamp current : UInt32} {count : Nat} {upToDate : Prop}

-- A cache with the generation it was computed at, `count` advances ago. The stamp zero
-- marks a cache that holds nothing.
def Stamped (stamp current : UInt32) (count : Nat) (upToDate : Prop) : Prop :=
  stamp = 0 ∨ (current = bump^[count] stamp ∧ (count = 0 → upToDate))

theorem Stamped.invalid : Stamped 0 current count upToDate :=
  .inl rfl

theorem Stamped.computed (holds : upToDate) : Stamped current current 0 upToDate :=
  .inr ⟨rfl, fun _ => holds⟩

theorem Stamped.advance {later : Prop} (stamped : Stamped stamp current count upToDate)
    (more : Nat) (still : more = 0 → upToDate → later) :
    Stamped stamp (bump^[more] current) (count + more) later := by
  rcases stamped with invalid | ⟨advanced, holds⟩
  · exact .inl invalid
  · refine .inr ⟨?_, fun none => ?_⟩
    · rw [advanced, ← Function.iterate_add_apply, Nat.add_comm]
    · rw [Nat.add_eq_zero_iff] at none
      exact still none.2 (holds none.1)

theorem Stamped.holds_of_eq (stamped : Stamped stamp current count upToDate)
    (valid : current ≠ 0) (few : count < 2 ^ 32 - 1) (same : stamp = current) : upToDate := by
  rcases stamped with invalid | ⟨advanced, holds⟩
  · exact absurd (same.symm.trans invalid) valid
  · subst same
    exact holds (eq_zero_of_iterate_bump stamp valid count few advanced.symm)

end Stamped

end Generations
