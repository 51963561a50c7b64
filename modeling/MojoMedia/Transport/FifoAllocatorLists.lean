import Mathlib.Data.List.Perm.Subperm
import MojoMedia.Transport.FifoAllocator

set_option autoImplicit false

namespace MojoMedia.FifoAllocator

open LinkedList

structure Shape (allocator : Allocator) (nodes frees : List Nat) : Prop where
  forwards : Path allocator.next allocator.front nodes none
  backwards : Path allocator.prev allocator.back nodes.reverse none
  lookaside : Path allocator.next allocator.free frees none
  distinct : (nodes ++ frees).Nodup
  made : ∀ node ∈ nodes ++ frees, node < allocator.made

section Shape

variable {self : Allocator} {nodes left right frees : List Nat} {node : Nat}

theorem Shape.front_eq (shape : Shape self nodes frees) : self.front = nodes.head? := by
  simpa using path_first shape.forwards

theorem Shape.back_eq (shape : Shape self nodes frees) : self.back = nodes.getLast? := by
  have first := path_first shape.backwards
  simpa using first

theorem Shape.next_eq (shape : Shape self (left ++ node :: right) frees) :
    self.next node = right.head? := by
  simpa using path_next shape.forwards

theorem Shape.prev_eq (shape : Shape self (left ++ node :: right) frees) :
    self.prev node = left.getLast? := by
  have backwards := shape.backwards
  rw [List.reverse_append, List.reverse_cons, List.append_assoc, List.singleton_append]
    at backwards
  simpa using path_next backwards

theorem Shape.nodup (shape : Shape self nodes frees) : nodes.Nodup :=
  (List.nodup_append.mp shape.distinct).1

theorem Shape.apart (shape : Shape self (left ++ node :: right) frees) :
    (∀ other ∈ left, other ≠ node) ∧ ∀ other ∈ right, other ≠ node := by
  have distinct := shape.nodup
  simp only [List.nodup_append, List.nodup_cons, List.mem_cons] at distinct
  obtain ⟨-, ⟨notRight, -⟩, apart⟩ := distinct
  refine ⟨fun other member => apart other member node (by simp), ?_⟩
  rintro other member rfl
  exact notRight member

theorem Shape.length_lt (shape : Shape self nodes frees) : nodes.length < self.fuel := by
  have subset : nodes ⊆ List.range self.made := fun node member =>
    List.mem_range.mpr (shape.made node (List.mem_append_left _ member))
  have bound := (List.subperm_of_subset shape.nodup subset).length_le
  rw [List.length_range] at bound
  exact Nat.lt_succ_of_le bound

theorem Shape.frame (shape : Shape self nodes frees) (size : Nat) (active : Option Nat)
    (region : Nat → Region) : Shape { self with size, active, region } nodes frees :=
  ⟨shape.forwards, shape.backwards, shape.lookaside, shape.distinct, shape.made⟩

theorem Shape.front_iff (shape : Shape self (left ++ node :: right) frees) :
    self.front = some node ↔ left = [] := by
  rw [shape.front_eq]
  cases left with
  | nil => simp
  | cons first rest => simpa using shape.apart.1 first (by simp)

theorem Shape.back_iff (shape : Shape self (left ++ node :: right) frees) :
    self.back = some node ↔ right = [] := by
  rw [shape.back_eq, List.getLast?_append_cons]
  cases right with
  | nil => simp
  | cons second rest =>
    rw [List.getLast?_cons_cons]
    simp only [reduceCtorEq, iff_false]
    intro last
    exact shape.apart.2 node (List.mem_of_getLast? last) rfl

theorem Shape.removeForwards (shape : Shape self (left ++ node :: right) frees) :
    ∃ front next, self.removeForwards node = some { self with front, next } ∧
      Path next front (left ++ right) none ∧ Path next self.free frees none ∧
      next node = self.next node := by
  rcases List.eq_nil_or_concat left with rfl | ⟨rest, before, rfl⟩
  · refine ⟨self.next node, self.next, ?_, shape.forwards.2, shape.lookaside, rfl⟩
    rw [Allocator.removeForwards, if_pos (shape.front_iff.mpr rfl)]
  · rw [List.concat_eq_append] at shape
    have other : node ≠ before := (shape.apart.1 before (by simp)).symm
    have absent : before ∉ frees := by
      intro member
      have apart := (List.nodup_append.mp shape.distinct).2.2
      exact apart before (by simp) before member rfl
    refine ⟨self.front, Function.update self.next before (self.next node), ?_, ?_,
      path_update shape.lookaside _ absent _, Function.update_of_ne other _ _⟩
    · rw [Allocator.removeForwards, if_neg (by simp [shape.front_iff]), shape.prev_eq]
      simp
    · have path := shape.forwards
      have distinct := shape.nodup
      simp only [List.append_assoc, List.singleton_append] at path distinct
      simpa using path_bypass path distinct

theorem Shape.removeBackwards (shape : Shape self (left ++ node :: right) frees)
    (front : Option Nat) (next : Nat → Option Nat) (same : next node = self.next node) :
    ∃ back prev, ({ self with front, next }).removeBackwards node =
        some { self with front, next, back, prev } ∧
      Path prev back (left ++ right).reverse none := by
  cases right with
  | nil =>
    refine ⟨self.prev node, self.prev, ?_, ?_⟩
    · rw [Allocator.removeBackwards, if_pos (shape.back_iff.mpr rfl)]
    · have path := shape.backwards
      rw [List.reverse_append, List.reverse_cons, List.reverse_nil, List.nil_append] at path
      simpa using path.2
  | cons after rest =>
    refine ⟨self.back, Function.update self.prev after (self.prev node), ?_, ?_⟩
    · rw [Allocator.removeBackwards, if_neg (by simp [shape.back_iff])]
      simp only [same, shape.next_eq, List.head?_cons, Option.map_some]
    · have path := shape.backwards
      have distinct := List.nodup_reverse.mpr shape.nodup
      simp only [List.reverse_append, List.reverse_cons, List.append_assoc,
        List.singleton_append] at path distinct
      simpa using path_bypass path distinct

theorem Shape.discard (shape : Shape self (left ++ node :: right) frees) :
    ∃ front back free prev next,
      (self.remove node).map (·.putFree node) =
        some { self with front, back, free, prev, next } ∧
      Shape { self with front, back, free, prev, next } (left ++ right) (node :: frees) := by
  obtain ⟨front, next, firstHalf, forwards, lookaside, same⟩ := shape.removeForwards
  obtain ⟨back, prev, secondHalf, backwards⟩ := shape.removeBackwards front next same
  have distinct := shape.distinct
  rw [List.append_assoc, List.cons_append, (List.perm_middle).nodup_iff, List.nodup_cons,
    ← List.append_assoc] at distinct
  obtain ⟨absent, rest⟩ := distinct
  simp only [List.mem_append, not_or] at absent
  refine ⟨front, back, some node, prev, Function.update next node self.free, ?_, ?_⟩
  · rw [Allocator.remove, firstHalf, Option.bind_some, secondHalf]
    rfl
  · constructor
    · exact path_update forwards node (by simp [absent]) _
    · exact backwards
    · exact path_push lookaside node absent.2
    · rw [(List.perm_middle).nodup_iff, List.nodup_cons]
      exact ⟨by simp [absent], rest⟩
    · intro other member
      refine shape.made other ?_
      simp only [List.mem_append, List.mem_cons] at member ⊢
      tauto

theorem Shape.getFree (shape : Shape self nodes frees) (allocated : Bool) (size offset : Nat) :
    ∃ result free prev next made rest,
      self.getFree allocated size offset = (result,
        { self with
          free, prev, next, made
          region := Function.update self.region result { allocated, size, offset } }) ∧
      Shape { self with free, prev, next, made } nodes rest ∧ result ∉ nodes ++ rest ∧
      result < made := by
  cases frees with
  | nil =>
    have empty : self.free = none := shape.lookaside
    have absent : self.made ∉ nodes := by
      intro member
      exact Nat.lt_irrefl _ (shape.made self.made (by simp [member]))
    refine ⟨self.made, self.free, Function.update self.prev self.made none,
      Function.update self.next self.made none, self.made + 1, [], ?_, ?_, by simpa using absent,
      Nat.lt_succ_self _⟩
    · simp [Allocator.getFree, empty]
    · constructor
      · exact path_update shape.forwards _ absent _
      · exact path_update shape.backwards _ (by simpa using absent) _
      · exact empty
      · exact shape.distinct
      · intro node member
        exact Nat.lt_succ_of_lt (shape.made node member)
  | cons result rest =>
    obtain ⟨head, later⟩ := shape.lookaside
    have distinct := shape.distinct
    rw [(List.perm_middle).nodup_iff, List.nodup_cons] at distinct
    refine ⟨result, self.next result, self.prev, self.next, self.made, rest, ?_, ?_,
      distinct.1, shape.made result (by simp)⟩
    · simp [Allocator.getFree, head]
    · constructor
      · exact shape.forwards
      · exact shape.backwards
      · exact later
      · exact distinct.2
      · intro node member
        refine shape.made node ?_
        simp only [List.mem_append, List.mem_cons] at member ⊢
        tauto

theorem Shape.insertBefore {beforeThis : Nat}
    (shape : Shape self (left ++ beforeThis :: right) frees)
    (absent : node ∉ (left ++ beforeThis :: right) ++ frees) (old : node < self.made) :
    ∃ front prev next,
      self.insertBefore node beforeThis = some { self with front, prev, next } ∧
      Shape { self with front, prev, next } (left ++ node :: beforeThis :: right) frees := by
  have fresh : node ∉ left ++ beforeThis :: right := fun member =>
    absent (List.mem_append_left _ member)
  have freshFrees : node ∉ frees := fun member => absent (List.mem_append_right _ member)
  have other : node ≠ beforeThis := by
    rintro rfl
    exact fresh (by simp)
  have distinct : ((left ++ node :: beforeThis :: right) ++ frees).Nodup := by
    rw [List.append_assoc, List.cons_append, (List.perm_middle).nodup_iff, List.nodup_cons,
      ← List.append_assoc]
    exact ⟨absent, shape.distinct⟩
  have made : ∀ member ∈ (left ++ node :: beforeThis :: right) ++ frees, member < self.made := by
    intro member listed
    by_cases same : member = node
    · exact same ▸ old
    · refine shape.made member ?_
      simp only [List.mem_append, List.mem_cons] at listed ⊢
      tauto
  have backwards : Path (Function.update (Function.update self.prev node (self.prev beforeThis))
      beforeThis (some node)) self.back (left ++ node :: beforeThis :: right).reverse none := by
    have path := shape.backwards
    have nodup := List.nodup_reverse.mpr shape.nodup
    have outside : node ∉ (left ++ beforeThis :: right).reverse := by
      rwa [List.mem_reverse]
    simp only [List.reverse_append, List.reverse_cons, List.append_assoc,
      List.singleton_append] at path nodup outside
    simpa using path_splice node path nodup outside
  rcases List.eq_nil_or_concat left with rfl | ⟨rest, before, rfl⟩
  · have first : self.front = some beforeThis := shape.forwards.1
    refine ⟨some node,
      Function.update (Function.update self.prev node (self.prev beforeThis)) beforeThis
        (some node),
      Function.update self.next node (some beforeThis), ?_, ?_, backwards,
      path_update shape.lookaside node freshFrees _, distinct, made⟩
    · simp only [Allocator.insertBefore, first, if_true]
    · rw [← first]
      exact path_push shape.forwards node fresh
  · rw [List.concat_eq_append] at *
    have notFirst : self.front ≠ some beforeThis := by
      rw [shape.front_eq]
      intro same
      cases rest with
      | nil => exact shape.apart.1 before (by simp) (by simpa using same)
      | cons head tail => exact shape.apart.1 head (by simp) (by simpa using same)
    have previous : self.prev beforeThis = some before := by simp [shape.prev_eq]
    have absentBefore : before ∉ frees := by
      intro member
      exact (List.nodup_append.mp shape.distinct).2.2 before (by simp) before member rfl
    refine ⟨self.front,
      Function.update (Function.update self.prev node (self.prev beforeThis)) beforeThis
        (some node),
      Function.update (Function.update self.next node (some beforeThis)) before (some node), ?_,
      ?_, backwards,
      path_update (path_update shape.lookaside node freshFrees _) before absentBefore _,
      distinct, made⟩
    · simp only [Allocator.insertBefore, if_neg notFirst, Function.update_of_ne other,
        Function.update_self, previous, Option.map_some]
    · have path := shape.forwards
      have nodup := shape.nodup
      simp only [List.append_assoc, List.singleton_append] at path nodup fresh
      have link : self.next before = some beforeThis := by simpa using path_next path
      have spliced := path_splice node path nodup fresh
      rw [link] at spliced
      simpa using spliced

end Shape

end MojoMedia.FifoAllocator
