import Mathlib.Logic.Function.Iterate
import Mathlib.Tactic.Common

set_option autoImplicit false

namespace Loops

variable {State : Type} {guard : State → Prop} {body : State → State}

structure Passes (guard : State → Prop) (body : State → State) (start : State) (count : Nat)
    (final : State) : Prop where
  held : ∀ pass < count, guard (body^[pass] start)
  stopped : ¬ guard (body^[count] start)
  final_eq : final = body^[count] start

theorem Passes.none {start : State} (stay : ¬ guard start) :
    Passes guard body start 0 start :=
  ⟨fun _ before => absurd before (Nat.not_lt_zero _), stay, rfl⟩

theorem Passes.again {start final : State} {count : Nat} (go : guard start)
    (rest : Passes guard body (body start) count final) :
    Passes guard body start (count + 1) final := by
  refine ⟨?_, rest.stopped, rest.final_eq⟩
  intro pass before
  cases pass with
  | zero => exact go
  | succ pass => exact rest.held pass (Nat.lt_of_succ_lt_succ before)

section Terminates

variable [DecidablePred guard] (loop : State → State) (left : State → Nat)

theorem while_passes
    (unfolds : ∀ state, loop state = if guard state then loop (body state) else state)
    (falls : ∀ state, guard state → left (body state) < left state) (start : State) :
    ∃ count, Passes guard body start count (loop start) := by
  induction fuel : left start using Nat.strongRecOn generalizing start with
  | _ fuel ih =>
    rw [unfolds start]
    by_cases go : guard start
    · obtain ⟨count, rest⟩ := ih (left (body start)) (fuel ▸ falls start go) (body start) rfl
      rw [if_pos go]
      exact ⟨count + 1, rest.again go⟩
    · rw [if_neg go]
      exact ⟨0, .none go⟩

theorem do_passes
    (unfolds : ∀ state, loop state =
      if guard (body state) then loop (body state) else body state)
    (falls : ∀ state, guard (body state) → left (body state) < left state) (start : State)
    (go : guard start) : ∃ count, Passes guard body start count (loop start) := by
  have entered : ∀ state, ∃ count, Passes guard body (body state) count (loop state) := by
    intro state
    induction fuel : left state using Nat.strongRecOn generalizing state with
    | _ fuel ih =>
      rw [unfolds state]
      by_cases more : guard (body state)
      · obtain ⟨count, rest⟩ := ih (left (body state)) (fuel ▸ falls state more) (body state) rfl
        rw [if_pos more]
        exact ⟨count + 1, rest.again more⟩
      · rw [if_neg more]
        exact ⟨0, .none more⟩
  obtain ⟨count, rest⟩ := entered start
  exact ⟨count + 1, rest.again go⟩

end Terminates

namespace Passes

variable {start final : State} {count : Nat}

theorem lt_count_iff (ran : Passes guard body start count final) (pass : Nat) :
    pass < count ↔ ∀ earlier ≤ pass, guard (body^[earlier] start) := by
  constructor
  · intro before earlier soon
    exact ran.held earlier (Nat.lt_of_le_of_lt soon before)
  · intro held
    by_contra past
    exact ran.stopped (held count (Nat.not_lt.mp past))

theorem congr {other : State → State} (ran : Passes guard body start count final)
    (same : ∀ pass < count, other (body^[pass] start) = body (body^[pass] start)) :
    Passes guard other start count final := by
  have reached : ∀ pass ≤ count, other^[pass] start = body^[pass] start := by
    intro pass inside
    induction pass with
    | zero => rfl
    | succ pass ih =>
      rw [Function.iterate_succ_apply', Function.iterate_succ_apply', ih (by omega),
        same pass (by omega)]
  refine ⟨?_, ?_, ?_⟩
  · intro pass before
    rw [reached pass (Nat.le_of_lt before)]
    exact ran.held pass before
  · rw [reached count (Nat.le_refl _)]
    exact ran.stopped
  · rw [reached count (Nat.le_refl _)]
    exact ran.final_eq

theorem append {wider : State → Prop} {last : State} {more : Nat}
    (ran : Passes guard body start count final) (resumed : Passes wider body final more last)
    (weaker : ∀ state, guard state → wider state) :
    Passes wider body start (more + count) last := by
  have later : ∀ pass, body^[pass + count] start = body^[pass] final := by
    intro pass
    rw [Function.iterate_add_apply, ← ran.final_eq]
  refine ⟨?_, ?_, ?_⟩
  · intro pass before
    by_cases early : pass < count
    · exact weaker _ (ran.held pass early)
    · obtain ⟨further, rfl⟩ := Nat.exists_eq_add_of_le' (Nat.not_lt.mp early)
      rw [later]
      exact resumed.held further (by omega)
  · rw [later]
    exact resumed.stopped
  · rw [later]
    exact resumed.final_eq

end Passes

theorem iterate_keeps (Keeps : State → Prop) {start : State} {count : Nat}
    (step : ∀ pass < count, Keeps (body^[pass] start) → Keeps (body (body^[pass] start)))
    (first : Keeps start) : ∀ pass ≤ count, Keeps (body^[pass] start) := by
  intro pass inside
  induction pass with
  | zero => exact first
  | succ pass ih =>
    rw [Function.iterate_succ_apply']
    exact step pass (by omega) (ih (by omega))

theorem iterate_holds_iff (Holds : State → Prop) (Meets : Nat → Prop) {start : State} {count : Nat}
    (step : ∀ pass < count,
      (Holds (body (body^[pass] start)) ↔ Holds (body^[pass] start) ∧ Meets pass)) :
    Holds (body^[count] start) ↔ Holds start ∧ ∀ pass < count, Meets pass := by
  induction count with
  | zero => simp
  | succ count ih =>
    rw [Function.iterate_succ_apply', step count (Nat.lt_succ_self _),
      ih fun pass before => step pass (Nat.lt_succ_of_lt before), and_assoc]
    refine and_congr_right fun _ => ?_
    constructor
    · rintro ⟨early, last⟩ pass before
      rcases Nat.lt_succ_iff_lt_or_eq.mp before with earlier | rfl
      · exact early pass earlier
      · exact last
    · intro all
      exact ⟨fun pass before => all pass (Nat.lt_succ_of_lt before),
        all count (Nat.lt_succ_self _)⟩

end Loops
