import Mathlib.Data.List.Nodup
import Mathlib.Logic.Function.Basic
import Mathlib.Tactic.Common

set_option autoImplicit false

namespace LinkedList

variable {Node : Type}

def Path (next : Node → Option Node) : Option Node → List Node → Option Node → Prop
  | first, [], last => first = last
  | first, node :: rest, last => first = some node ∧ Path next (next node) rest last

theorem path_append (next : Node → Option Node) (first last : Option Node)
    (left right : List Node) :
    Path next first (left ++ right) last ↔
      ∃ middle, Path next first left middle ∧ Path next middle right last := by
  induction left generalizing first with
  | nil => simp [Path]
  | cons node rest ih =>
    simp only [List.cons_append, Path, ih]
    constructor
    · rintro ⟨head, middle, before, after⟩
      exact ⟨middle, ⟨head, before⟩, after⟩
    · rintro ⟨middle, ⟨head, before⟩, after⟩
      exact ⟨head, middle, before, after⟩

theorem path_first {next : Node → Option Node} {first last : Option Node} {nodes : List Node}
    (path : Path next first nodes last) : first = nodes.head?.or last := by
  cases nodes with
  | nil => simpa [Path] using path
  | cons node rest => simpa using path.1

theorem path_next {next : Node → Option Node} {first last : Option Node}
    {left right : List Node} {node : Node} (path : Path next first (left ++ node :: right) last) :
    next node = right.head?.or last := by
  obtain ⟨middle, -, -, after⟩ := (path_append _ _ _ _ _).mp path
  exact path_first after

theorem path_congr {next other : Node → Option Node} {first last : Option Node}
    {nodes : List Node} (path : Path next first nodes last)
    (same : ∀ node ∈ nodes, other node = next node) : Path other first nodes last := by
  induction nodes generalizing first with
  | nil => exact path
  | cons node rest ih =>
    obtain ⟨head, later⟩ := path
    refine ⟨head, ?_⟩
    rw [same node (by simp)]
    exact ih later fun node member => same node (by simp [member])

section Update

variable [DecidableEq Node]

theorem path_update {next : Node → Option Node} {first last : Option Node} {nodes : List Node}
    (path : Path next first nodes last) (node : Node) (absent : node ∉ nodes)
    (target : Option Node) : Path (Function.update next node target) first nodes last := by
  refine path_congr path fun other member => Function.update_of_ne ?_ _ _
  rintro rfl
  exact absent member

theorem path_push {next : Node → Option Node} {first last : Option Node} {nodes : List Node}
    (path : Path next first nodes last) (node : Node) (absent : node ∉ nodes) :
    Path (Function.update next node first) (some node) (node :: nodes) last := by
  refine ⟨rfl, ?_⟩
  rw [Function.update_self]
  exact path_update path node absent first

theorem path_bypass {next : Node → Option Node} {first last : Option Node}
    {left right : List Node} {before node : Node}
    (path : Path next first (left ++ before :: node :: right) last)
    (distinct : (left ++ before :: node :: right).Nodup) :
    Path (Function.update next before (next node)) first (left ++ before :: right) last := by
  obtain ⟨middle, upTo, head, -, after⟩ := (path_append _ _ _ _ _).mp path
  simp only [List.nodup_append, List.nodup_cons, List.mem_cons, not_or] at distinct
  obtain ⟨-, ⟨⟨-, notAfter⟩, -⟩, apart⟩ := distinct
  refine (path_append _ _ _ _ _).mpr ⟨middle, ?_, head, ?_⟩
  · refine path_update upTo before ?_ _
    intro member
    exact apart before member before (by simp) rfl
  · rw [Function.update_self]
    exact path_update after before notAfter _

theorem path_splice {next : Node → Option Node} {first last : Option Node}
    {left right : List Node} {before : Node} (node : Node)
    (path : Path next first (left ++ before :: right) last)
    (distinct : (left ++ before :: right).Nodup) (absent : node ∉ left ++ before :: right) :
    Path (Function.update (Function.update next node (next before)) before (some node)) first
      (left ++ before :: node :: right) last := by
  obtain ⟨middle, upTo, head, after⟩ := (path_append _ _ _ _ _).mp path
  simp only [List.nodup_append, List.nodup_cons, List.mem_cons] at distinct
  obtain ⟨-, ⟨notAfter, -⟩, apart⟩ := distinct
  simp only [List.mem_append, List.mem_cons, not_or] at absent
  obtain ⟨notLeft, notBefore, notRight⟩ := absent
  refine (path_append _ _ _ _ _).mpr ⟨middle, ?_, head, ?_⟩
  · refine path_update (path_update upTo node notLeft _) before ?_ _
    intro member
    exact apart before member before (by simp) rfl
  · rw [Function.update_self]
    refine ⟨rfl, ?_⟩
    rw [Function.update_of_ne notBefore, Function.update_self]
    exact path_update (path_update after node notRight _) before notAfter _

end Update

-- First node from `first` on, before `stop`, that passes the test. The outer `none` is a walk
-- that falls off the list or does not end.
def find [DecidableEq Node] (next : Node → Option Node) (test : Node → Bool)
    (stop : Option Node) : Nat → Option Node → Option (Option Node)
  | 0, _ => none
  | fuel + 1, current =>
    if current = stop then some none
    else match current with
      | none => none
      | some node =>
        if test node then some (some node) else find next test stop fuel (next node)

theorem find_path [DecidableEq Node] {next : Node → Option Node} (test : Node → Bool)
    {first stop : Option Node} {nodes : List Node} (path : Path next first nodes stop)
    (outside : ∀ node ∈ nodes, some node ≠ stop) (fuel : Nat) (enough : nodes.length < fuel) :
    find next test stop fuel first = some (nodes.find? test) := by
  induction nodes generalizing first fuel with
  | nil =>
    obtain ⟨fuel, rfl⟩ := Nat.exists_eq_add_of_lt enough
    obtain rfl : first = stop := path
    simp [find]
  | cons node rest ih =>
    obtain ⟨fuel, rfl⟩ := Nat.exists_eq_add_of_lt enough
    obtain ⟨rfl, later⟩ := path
    have here : some node ≠ stop := outside node (by simp)
    cases found : test node with
    | true => simp [find, here, found]
    | false =>
      have deeper := ih later (fun node member => outside node (by simp [member]))
        (rest.length + 1 + fuel) (by omega)
      simp only [List.length_cons, find, here, if_false, found, Bool.false_eq_true,
        List.find?_cons_of_neg, not_false_eq_true]
      exact deeper

end LinkedList
