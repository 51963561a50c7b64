import Mathlib.Algebra.GroupWithZero.Nat
import Mathlib.Tactic.Common

set_option autoImplicit false

namespace Placement

def starts : Nat → List Nat → List Nat
  | _, [] => []
  | start, size :: sizes => start :: starts (start + size) sizes

@[simp] theorem length_starts (start : Nat) (sizes : List Nat) :
    (starts start sizes).length = sizes.length := by
  induction sizes generalizing start with
  | nil => rfl
  | cons size sizes ih => rw [starts, List.length_cons, List.length_cons, ih]

theorem le_start {first start : Nat} {sizes : List Nat} {index : Nat}
    (there : (starts first sizes)[index]? = some start) : first ≤ start := by
  induction sizes generalizing first index with
  | nil => cases there
  | cons size sizes ih =>
    cases index with
    | zero =>
      cases there
      exact Nat.le_refl _
    | succ index => exact Nat.le_trans (Nat.le_add_right _ _) (ih there)

theorem end_le {first start size : Nat} {sizes : List Nat} {index : Nat}
    (there : (starts first sizes)[index]? = some start) (sized : sizes[index]? = some size) :
    start + size ≤ first + sizes.sum := by
  induction sizes generalizing first index with
  | nil => cases there
  | cons head sizes ih =>
    rw [List.sum_cons]
    cases index with
    | zero =>
      cases there
      cases sized
      omega
    | succ index =>
      have bound := ih there sized
      omega

theorem end_le_start {first start size later : Nat} {sizes : List Nat} {index other : Nat}
    (order : index < other) (there : (starts first sizes)[index]? = some start)
    (sized : sizes[index]? = some size) (isLater : (starts first sizes)[other]? = some later) :
    start + size ≤ later := by
  induction sizes generalizing first index other with
  | nil => cases there
  | cons head sizes ih =>
    cases other with
    | zero => cases order
    | succ other =>
      cases index with
      | zero =>
        cases there
        cases sized
        exact le_start isLater
      | succ index => exact ih (Nat.lt_of_succ_lt_succ order) there sized isLater

end Placement
