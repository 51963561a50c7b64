import MojoMedia.Transport.FifoAllocatorLayout

set_option autoImplicit false

namespace MojoMedia.FifoAllocator

open LinkedList Ring Runs

structure WellFormed (allocator : Allocator) (nodes frees : List Nat) : Prop where
  shape : Shape allocator nodes frees
  layout : Layout allocator.region allocator.size allocator.active nodes
  small : allocator.size < 2 ^ 64

structure Successor (allocator next : Allocator) (nodes frees : List Nat) : Prop where
  wellFormed : WellFormed next nodes frees
  sized : next.size = allocator.size

theorem Successor.trans {first second third : Allocator} {nodes nodes' frees frees' : List Nat}
    (left : Successor first second nodes frees) (right : Successor second third nodes' frees') :
    Successor first third nodes' frees' :=
  ⟨right.wellFormed, right.sized.trans left.sized⟩

def Allocator.outstanding (self : Allocator) (nodes : List Nat) : List (Nat × Nat) :=
  ledger (nodes.map self.region)

theorem reset_wellFormed (self : Allocator) (size : Nat) (small : size < 2 ^ 64) :
    WellFormed (self.reset size) [self.made] [] ∧
      (self.reset size).outstanding [self.made] = [] := by
  have region : (self.reset size).region = Function.update self.region self.made ⟨false, size, 0⟩ :=
    rfl
  refine ⟨⟨?_, ?_, small⟩, by simp [Allocator.outstanding, region, ledger]⟩
  · constructor <;> simp [LinkedList.Path, Allocator.reset, Allocator.getFree]
  · rw [region]
    constructor
    · simp only [List.map_cons, Function.update_self, List.map_nil, tiles_cons, Chain]
      exact ⟨trivial, Nat.zero_add _⟩
    · simp [Coalesced]
    · exact ⟨self.made, by simp, rfl, by simp⟩
    · intro node member _
      rw [List.mem_singleton.mp member]
      rfl

section Operations

variable {self : Allocator} {nodes left right frees : List Nat} {node : Nat}

theorem placeholder_wellFormed {beforeThis : Nat}
    (shape : Shape self (left ++ beforeThis :: right) frees)
    (tiles : Chain Tile 0 ((left ++ beforeThis :: right).map self.region) self.size)
    (coalesced : Coalesced ((left ++ beforeThis :: right).map self.region))
    (full : ∀ node ∈ left ++ beforeThis :: right, 0 < (self.region node).size)
    (small : self.size < 2 ^ 64)
    (previous : ∀ other ∈ left.getLast?, (self.region other).allocated = true)
    (allocated : (self.region beforeThis).allocated = true) :
    ∃ newActive changed next nodes frees,
      self.getFree false 0 (self.region beforeThis).offset = (newActive, changed) ∧
      changed.active = self.active ∧ changed.back = self.back ∧ changed.front = self.front ∧
      (∃ others, Shape changed (left ++ beforeThis :: right) others) ∧
      (changed.insertBefore newActive beforeThis).map
        (fun self => { self with active := some newActive }) = some next ∧
      Successor self next nodes frees ∧
      next.outstanding nodes = self.outstanding (left ++ beforeThis :: right) := by
  obtain ⟨newActive, free, prev, next, made, others, got, shaped, absent, old⟩ :=
    shape.getFree false 0 (self.region beforeThis).offset
  have framed := shaped.frame self.size self.active
    (Function.update self.region newActive ⟨false, 0, (self.region beforeThis).offset⟩)
  obtain ⟨newFront, newPrev, newNext, inserted, final⟩ := framed.insertBefore absent old
  have placed := layout_placeholder newActive tiles coalesced full previous allocated
    fun member => absent (List.mem_append_left _ member)
  refine ⟨newActive, _, _, _, _, got, rfl, rfl, rfl, ⟨others, framed⟩, ?_,
    ⟨⟨final.frame self.size (some newActive) _, placed.1, small⟩, rfl⟩, placed.2⟩
  rw [inserted]
  rfl

theorem makeActivePlaceholder_wellFormed {active : Nat}
    (shape : Shape self (left ++ active :: right) frees)
    (tiles : Chain Tile 0 ((left ++ active :: right).map self.region) self.size)
    (coalesced : Coalesced ((left ++ active :: right).map self.region))
    (full : ∀ node ∈ left ++ active :: right, 0 < (self.region node).size)
    (small : self.size < 2 ^ 64) (isActive : self.active = some active)
    (allocated : (self.region active).allocated = true)
    (following : ∀ other ∈ right.head?, (self.region other).allocated = true)
    (first : right = [] → ∀ other ∈ left.head?, (self.region other).allocated = true) :
    ∃ next nodes frees, self.makeActivePlaceholder = some next ∧ Successor self next nodes frees ∧
      next.outstanding nodes = self.outstanding (left ++ active :: right) := by
  cases right with
  | nil =>
    have atBack : self.back = some active := shape.back_iff.mpr rfl
    -- The placeholder goes to the front of the list.
    obtain ⟨front, rest, whole⟩ : ∃ front rest, left ++ [active] = front :: rest := by
      cases left with
      | nil => exact ⟨active, [], rfl⟩
      | cons front others => exact ⟨front, others ++ [active], rfl⟩
    have frontAllocated : (self.region front).allocated = true := by
      cases left with
      | nil =>
        obtain ⟨rfl, -⟩ : active = front ∧ [] = rest := by simpa using whole
        exact allocated
      | cons head others =>
        obtain ⟨rfl, -⟩ : head = front ∧ others ++ [active] = rest := by simpa using whole
        exact first rfl head rfl
    rw [whole, ← List.nil_append (front :: rest)] at shape tiles coalesced full
    rw [whole]
    have atZero : (self.region front).offset = 0 := ((tiles_cons _ _ _ _).mp tiles).1
    have isFront : self.front = some front := by simpa using shape.front_eq
    obtain ⟨newActive, changed, next, nodes, frees, got, sameActive, sameBack, sameFront, -,
      inserted, wellFormed, held⟩ :=
      placeholder_wellFormed shape tiles coalesced full small (by simp) frontAllocated
    rw [atZero] at got
    refine ⟨next, nodes, frees, ?_, wellFormed, held⟩
    rw [← inserted]
    simp only [Allocator.makeActivePlaceholder, isActive, atBack, if_true, got, sameActive,
      sameBack, sameFront, isFront, Option.bind_eq_bind, Option.bind_some]
    rw [Option.map_eq_bind]
    rfl
  | cons beforeThis others =>
    have notBack : self.active ≠ self.back := by
      rw [isActive]
      exact fun same => by simpa using shape.back_iff.mp same.symm
    have ends : (self.region active).offset + (self.region active).size =
        (self.region beforeThis).offset := by
      rw [List.map_append, List.map_cons, List.map_cons, tiles_middle, tiles_cons] at tiles
      exact tiles.2.1.symm
    have whole : left ++ active :: beforeThis :: others =
        (left ++ [active]) ++ beforeThis :: others := by simp
    rw [whole] at shape tiles coalesced full
    rw [whole]
    obtain ⟨newActive, changed, next, nodes, frees, got, sameActive, sameBack, sameFront,
      ⟨lookaside, shaped⟩, inserted, wellFormed, held⟩ :=
      placeholder_wellFormed shape tiles coalesced full small (by simpa using allocated)
        (following beforeThis rfl)
    have after : changed.next active = some beforeThis := by
      rw [← whole] at shaped
      simpa using shaped.next_eq
    refine ⟨next, nodes, frees, ?_, wellFormed, held⟩
    rw [← inserted]
    rw [isActive] at notBack
    simp only [Allocator.makeActivePlaceholder, isActive, if_neg notBack, ends, got, sameActive,
      sameBack, after, Option.bind_eq_bind, Option.bind_some]
    rw [Option.map_eq_bind]
    rfl

theorem moveActive_wellFormed {active : Nat}
    (shape : Shape self (left ++ active :: right) frees)
    (tiles : Chain Tile 0 ((left ++ active :: right).map self.region) self.size)
    (coalesced : Coalesced ((left ++ active :: right).map self.region))
    (full : ∀ node ∈ left ++ active :: right, 0 < (self.region node).size)
    (small : self.size < 2 ^ 64) (isActive : self.active = some active)
    (allocated : (self.region active).allocated = true)
    (following : ∀ other ∈ right.head?, (self.region other).allocated = true) :
    ∃ next nodes frees, self.moveActive = some next ∧ Successor self next nodes frees ∧
      next.outstanding nodes = self.outstanding (left ++ active :: right) := by
  obtain ⟨front, isFront, listed⟩ :
      ∃ front, self.front = some front ∧ front ∈ left ++ active :: right := by
    rw [shape.front_eq]
    cases left with
    | nil => exact ⟨active, rfl, by simp⟩
    | cons head rest => exact ⟨head, rfl, by simp⟩
  by_cases advance : self.active = self.back ∧ (self.region front).allocated = false
  · refine ⟨{ self with active := self.front }, left ++ active :: right, frees, ?_,
      ⟨⟨shape.frame self.size self.front self.region, ?_, small⟩, rfl⟩, rfl⟩
    · simp only [Allocator.moveActive, isFront, Option.bind_eq_bind, Option.bind_some]
      rw [if_pos advance]
    · refine ⟨tiles, coalesced, ⟨front, listed, isFront, advance.2⟩, ?_⟩
      intro node member zero
      exact absurd zero (Nat.ne_of_gt (full node member))
  · have first : right = [] → ∀ other ∈ left.head?, (self.region other).allocated = true := by
      rintro rfl other member
      have isOther : self.front = some other := by
        rw [shape.front_eq]
        cases left with
        | nil => simp at member
        | cons head rest => simpa using member
      have same : front = other := Option.some.inj (isFront.symm.trans isOther)
      have atBack : self.active = self.back := by rw [isActive, shape.back_iff.mpr rfl]
      rw [← same]
      simpa [atBack] using advance
    obtain ⟨next, nodes, frees, made, placed⟩ := makeActivePlaceholder_wellFormed shape tiles
      coalesced full small isActive allocated following first
    refine ⟨next, nodes, frees, ?_, placed⟩
    simp only [Allocator.moveActive, isFront, Option.bind_eq_bind, Option.bind_some]
    rw [if_neg advance, made]

theorem allocateActive_wellFormed (wellFormed : WellFormed self nodes frees) (active size : Nat)
    (isActive : self.active = some active) (positive : 0 < size)
    (large : size ≤ (self.region active).size) :
    ∃ offset next nodes' frees', self.allocateActive size = some (offset, next) ∧
      Successor self next nodes' frees' ∧ offset < kNullOffset ∧
      (next.outstanding nodes').Perm ((size, offset) :: self.outstanding nodes) := by
  obtain ⟨shape, layout, small⟩ := wellFormed
  rw [isActive] at layout
  obtain ⟨left, right, rfl⟩ := List.append_of_mem layout.unallocated.1
  obtain ⟨apartLeft, apartRight⟩ := shape.apart
  have absentLeft : active ∉ left := fun member => apartLeft active member rfl
  have absentRight : active ∉ right := fun member => apartRight active member rfl
  have tiles := layout.tiles
  rw [List.map_append, List.map_cons] at tiles
  have bound := tiles_bound tiles
  by_cases exactly : (self.region active).size = size
  · -- The whole active region is taken. It was not allocated, so the one after it is.
    have following : ∀ other ∈ right.head?, (Function.update self.region active
        ((self.region active).mark true) other).allocated = true := by
      intro other member
      have coalesced := layout.coalesced
      rw [List.map_append, List.map_cons] at coalesced
      simp only [Coalesced, List.isChain_append, List.isChain_cons, List.head?_map,
        Option.mem_map, forall_exists_index, and_imp, forall_apply_eq_imp_iff₂,
        layout.unallocated.2, Bool.false_eq_true, false_or] at coalesced
      rw [Function.update_of_ne (apartRight other (List.mem_of_head? member))]
      exact coalesced.2.1.1 other member
    obtain ⟨newTiles, newCoalesced, full, held⟩ :=
      layout.allocate (by omega) absentLeft absentRight
    rw [exactly] at held
    obtain ⟨next, nodes', frees', moved, placed, same⟩ :=
      moveActive_wellFormed (shape.frame self.size self.active
          (Function.update self.region active ((self.region active).mark true)))
        newTiles newCoalesced full small isActive (by simp [Region.mark]) following
    refine ⟨(self.region active).offset, next, nodes', frees', ?_,
      ⟨placed.wellFormed, placed.sized⟩, ?_, ?_⟩
    · rw [isActive] at moved
      simp only [Allocator.allocateActive, isActive, Option.bind_eq_bind, Option.bind_some,
        if_pos exactly, moved]
    · simp only [kNullOffset]
      omega
    · rw [same]
      exact held
  · -- A new region is cut off its front.
    have fits : size < (self.region active).size := by omega
    obtain ⟨added, free, prev, next, made, rest, got, shaped, absent, old⟩ :=
      shape.getFree true size (self.region active).offset
    have fresh : added ∉ left ++ active :: right := fun member =>
      absent (List.mem_append_left _ member)
    have different : added ≠ active := by
      rintro rfl
      exact fresh (by simp)
    obtain ⟨cutLayout, held⟩ :=
      layout.split size positive fits absentLeft absentRight added fresh
    have framed := shaped.frame self.size self.active
      (Function.update (Function.update self.region added
        ⟨true, size, (self.region active).offset⟩) active ((self.region active).cut size))
    obtain ⟨newFront, newPrev, newNext, inserted, final⟩ := framed.insertBefore absent old
    refine ⟨(self.region active).offset, _, _, _, ?_,
      ⟨⟨final, by rw [← isActive] at cutLayout; exact cutLayout, small⟩, rfl⟩,
      by simp only [kNullOffset]; omega, held⟩
    simp only [Allocator.allocateActive, isActive, Option.bind_eq_bind, Option.bind_some, got,
      if_neg exactly, Function.update_of_ne different.symm]
    rw [← isActive, inserted]
    simp only [Option.bind_some, Function.update_of_ne different, Function.update_self]

theorem advanceActiveBetween_wellFormed (wellFormed : WellFormed self (left ++ node :: right) frees)
    (isActive : self.active = some node) (size : Nat) (first last : Option Nat)
    (searched : List Nat)
    (path : Path self.next first searched last) (outside : ∀ other ∈ searched, some other ≠ last)
    (within : searched ⊆ left ++ right) (enough : searched.length < self.fuel) :
    (self.advanceActiveBetween size first last = some (false, self) ∧
      ∀ other ∈ searched, self.isLarge size other = false) ∨
      ∃ next nodes frees active, self.advanceActiveBetween size first last = some (true, next) ∧
        (∃ other ∈ searched, self.isLarge size other = true) ∧
        Successor self next nodes frees ∧ next.active = some active ∧
        size ≤ (next.region active).size ∧
        next.outstanding nodes = self.outstanding (left ++ node :: right) := by
  obtain ⟨shape, layout, small⟩ := wellFormed
  rw [isActive] at layout
  obtain ⟨apartLeft, apartRight⟩ := shape.apart
  have absentLeft : node ∉ left := fun member => apartLeft node member rfl
  have absentRight : node ∉ right := fun member => apartRight node member rfl
  have walk := find_path (self.isLarge size) path outside self.fuel enough
  cases found : searched.find? (self.isLarge size) with
  | none =>
    left
    refine ⟨by simp only [Allocator.advanceActiveBetween, walk, found], ?_⟩
    simpa using found
  | some region =>
    right
    have listed : region ∈ left ++ right := within (List.mem_of_find?_eq_some found)
    have isLarge := List.find?_some found
    have present : ∃ other ∈ searched, self.isLarge size other = true :=
      ⟨region, List.mem_of_find?_eq_some found, isLarge⟩
    simp only [Allocator.isLarge, Bool.and_eq_true, Bool.not_eq_true', decide_eq_true_eq] at isLarge
    obtain ⟨unallocated, large⟩ := isLarge
    by_cases zero : (self.region node).size = 0
    · obtain ⟨front, back, free, prev, next, removed, shaped⟩ := shape.discard
      obtain ⟨moved, held⟩ :=
        layout.dropEmpty region listed unallocated zero absentLeft absentRight
      refine ⟨_, _, _, region, ?_, present,
        ⟨⟨shaped.frame self.size (some region) self.region, moved, small⟩, rfl⟩, rfl, large, held⟩
      simp only [Allocator.advanceActiveBetween, walk, found, isActive, Option.bind_eq_bind,
        Option.bind_some, Allocator.dropPlaceholder, if_pos zero, removed]
    · have member : region ∈ left ++ node :: right := by
        simp only [List.mem_append, List.mem_cons] at listed ⊢
        tauto
      have moved := layout.moveTo region member unallocated (by omega)
      refine ⟨_, _, _, region, ?_, present,
        ⟨⟨shape.frame self.size (some region) self.region, moved, small⟩, rfl⟩, rfl, large, rfl⟩
      simp only [Allocator.advanceActiveBetween, walk, found, isActive, Option.bind_eq_bind,
        Option.bind_some, Allocator.dropPlaceholder, if_neg zero]

theorem advanceActive_wellFormed (wellFormed : WellFormed self nodes frees) (active size : Nat)
    (isActive : self.active = some active) :
    (self.advanceActive size = some (false, self) ∧
      ∀ other ∈ nodes, other ≠ active → self.isLarge size other = false) ∨
      ∃ next nodes' frees' active, self.advanceActive size = some (true, next) ∧
        (∃ other ∈ nodes, self.isLarge size other = true) ∧
        Successor self next nodes' frees' ∧ next.active = some active ∧
        size ≤ (next.region active).size ∧ next.outstanding nodes' = self.outstanding nodes := by
  have layout := wellFormed.layout
  rw [isActive] at layout
  obtain ⟨left, right, rfl⟩ := List.append_of_mem layout.unallocated.1
  have shape := wellFormed.shape
  obtain ⟨apartLeft, -⟩ := shape.apart
  have length := shape.length_lt
  rw [List.length_append, List.length_cons] at length
  obtain ⟨middle, before, head, after⟩ := (path_append _ _ _ _ _).mp shape.forwards
  have second := advanceActiveBetween_wellFormed wellFormed isActive size
    self.front self.active left (by rw [isActive, ← head]; exact before)
    (by simpa [isActive] using apartLeft) (List.subset_append_left _ _) (by omega)
  rcases advanceActiveBetween_wellFormed wellFormed isActive size
    (self.next active) none right after (by simp) (List.subset_append_right _ _) (by omega) with
    ⟨missed, none⟩ | ⟨next, nodes', frees', chosen, moved, ⟨other, listed, isLarge⟩, rest⟩
  · have skipped : self.advanceActive size =
        self.advanceActiveBetween size self.front self.active := by
      simp only [Allocator.advanceActive, isActive, Option.bind_eq_bind, Option.bind_some, missed]
    rw [skipped]
    rcases second with ⟨again, before⟩ | ⟨next, nodes', frees', chosen, moved, found, rest⟩
    · refine .inl ⟨again, fun other listed different => ?_⟩
      rcases List.mem_append.mp listed with ahead | behind
      · exact before other ahead
      · exact none other ((List.mem_cons.mp behind).resolve_left different)
    · obtain ⟨other, listed, isLarge⟩ := found
      exact .inr ⟨next, nodes', frees', chosen, moved, ⟨other, by simp [listed], isLarge⟩, rest⟩
  · refine .inr ⟨next, nodes', frees', chosen, ?_, ⟨other, by simp [listed], isLarge⟩, rest⟩
    simp only [Allocator.advanceActive, isActive, Option.bind_eq_bind, Option.bind_some, moved]

theorem allocateRegion_wellFormed (wellFormed : WellFormed self nodes frees) (size : Nat)
    (positive : 0 < size) :
    (self.allocateRegion size = some (kNullOffset, self) ∧
      ∀ other ∈ nodes, self.isLarge size other = false) ∨
      ∃ offset next nodes' frees', self.allocateRegion size = some (offset, next) ∧
        (∃ other ∈ nodes, self.isLarge size other = true) ∧
        Successor self next nodes' frees' ∧ offset < kNullOffset ∧
        (next.outstanding nodes').Perm ((size, offset) :: self.outstanding nodes) := by
  obtain ⟨active, listed, isActive, unallocated⟩ := wellFormed.layout.available
  by_cases short : (self.region active).size < size
  · rcases advanceActive_wellFormed wellFormed active size isActive with
      ⟨missed, none⟩ | ⟨middle, nodes', frees', chosen, moved, found, kept, nowActive, large, held⟩
    · left
      constructor
      · simp only [Allocator.allocateRegion, isActive, Option.bind_eq_bind, Option.bind_some,
          if_pos short, missed]
      · intro other member
        by_cases same : other = active
        · rw [same, Allocator.isLarge, decide_eq_false (Nat.not_le.mpr short), Bool.and_false]
        · exact none other member same
    · right
      obtain ⟨offset, next, final, lookaside, taken, result, bound, added⟩ :=
        allocateActive_wellFormed kept.wellFormed chosen size nowActive positive large
      rw [held] at added
      refine ⟨offset, next, final, lookaside, ?_, found, kept.trans result, bound, added⟩
      simp only [Allocator.allocateRegion, isActive, Option.bind_eq_bind, Option.bind_some,
        if_pos short, moved, taken]
  · right
    have large : size ≤ (self.region active).size := Nat.le_of_not_lt short
    obtain ⟨offset, next, final, lookaside, taken, result⟩ :=
      allocateActive_wellFormed wellFormed active size isActive positive large
    refine ⟨offset, next, final, lookaside, ?_, ⟨active, listed, ?_⟩, result⟩
    · simp only [Allocator.allocateRegion, isActive, Option.bind_eq_bind, Option.bind_some,
        if_neg short, taken]
    · simp [Allocator.isLarge, unallocated, large]

theorem coalescePrev_releasing (shape : Shape self (left ++ node :: right) frees)
    (freed : Freed self.region self.size self.active left node right) :
    ∃ next left' node' frees', self.coalescePrev node = some (node', next) ∧
      Shape next (left' ++ node' :: right) frees' ∧
      Releasing next.region next.size next.active left' node' right ∧ next.size = self.size ∧
      next.outstanding (left' ++ node' :: right) = self.outstanding (left ++ node :: right) := by
  rcases List.eq_nil_or_concat left with rfl | ⟨rest, prev, rfl⟩
  · refine ⟨self, [], node, frees, ?_, shape, freed.keep (by simp), rfl, rfl⟩
    simp [Allocator.coalescePrev, shape.prev_eq]
  rw [List.concat_eq_append] at *
  have previous : self.prev node = some prev := by simp [shape.prev_eq]
  cases isAllocated : (self.region prev).allocated with
  | true =>
    refine ⟨self, rest ++ [prev], node, frees, ?_, shape,
      freed.keep (by simpa using isAllocated), rfl, rfl⟩
    simp [Allocator.coalescePrev, previous, Option.filter_some, Allocator.isUnallocated,
      isAllocated]
  | false =>
    have distinct := shape.nodup
    simp only [List.append_assoc, List.singleton_append, List.nodup_append, List.nodup_cons,
      List.mem_cons, not_or] at distinct
    have absentRight : prev ∉ right := distinct.2.1.1.2
    have absentLeft : prev ∉ rest := fun member => distinct.2.2 prev member prev (by simp) rfl
    obtain ⟨releasing, held⟩ := freed.absorb isAllocated absentLeft absentRight
    have framed := shape.frame self.size self.active
      (Function.update self.region prev
        ((self.region prev).absorbNext (self.region node)))
    obtain ⟨front, back, free, newPrev, newNext, removed, shaped⟩ := framed.discard
    rw [List.append_assoc, List.singleton_append] at shaped
    refine ⟨_, rest, prev, _, ?_, shaped, releasing, rfl, held⟩
    simp only [Allocator.coalescePrev, previous, Option.filter_some, Allocator.isUnallocated,
      isAllocated, Bool.not_false, if_true]
    rw [removed]
    rfl

theorem coalesceNext_wellFormed (shape : Shape self (left ++ node :: right) frees)
    (releasing : Releasing self.region self.size self.active left node right)
    (small : self.size < 2 ^ 64) :
    ∃ next nodes frees, self.coalesceNext node = some next ∧ Successor self next nodes frees ∧
      next.outstanding nodes = self.outstanding (left ++ node :: right) := by
  cases right with
  | nil =>
    refine ⟨self, left ++ [node], frees, ?_, ⟨⟨shape, releasing.keep (by simp), small⟩, rfl⟩, rfl⟩
    simp [Allocator.coalesceNext, shape.next_eq]
  | cons next rest =>
    have following : self.next node = some next := by simp [shape.next_eq]
    cases isAllocated : (self.region next).allocated with
    | true =>
      refine ⟨self, left ++ node :: next :: rest, frees, ?_,
        ⟨⟨shape, releasing.keep (by simpa using isAllocated), small⟩, rfl⟩, rfl⟩
      simp [Allocator.coalesceNext, following, Option.filter_some, Allocator.isUnallocated,
        isAllocated]
    | false =>
      have distinct := shape.nodup
      rw [(List.perm_middle).nodup_iff, List.nodup_cons] at distinct
      obtain ⟨absent, others⟩ := distinct
      rw [(List.perm_middle).nodup_iff, List.nodup_cons, List.mem_append, not_or] at others
      obtain ⟨layout, held⟩ := releasing.absorb isAllocated absent others.1.1 others.1.2
      have framed := shape.frame self.size
        (if self.active = some node then some next else self.active)
        (Function.update self.region next ((self.region next).absorbPrev (self.region node)))
      obtain ⟨front, back, free, newPrev, newNext, removed, shaped⟩ := framed.discard
      refine ⟨_, _, _, ?_, ⟨⟨shaped, layout, small⟩, rfl⟩, held⟩
      simp only [Allocator.coalesceNext, following, Option.filter_some, Allocator.isUnallocated,
        isAllocated, Bool.not_false, if_true]
      rw [removed]

theorem releaseFound_wellFormed (wellFormed : WellFormed self (left ++ node :: right) frees)
    (allocated : (self.region node).allocated = true) :
    ∃ next nodes frees, self.releaseFound node = some next ∧ Successor self next nodes frees ∧
      (self.outstanding (left ++ node :: right)).Perm
        (((self.region node).size, (self.region node).offset) :: next.outstanding nodes) := by
  obtain ⟨shape, layout, small⟩ := wellFormed
  obtain ⟨apartLeft, apartRight⟩ := shape.apart
  obtain ⟨freed, held⟩ := layout.release allocated (fun member => apartLeft node member rfl)
    (fun member => apartRight node member rfl)
  have framed := shape.frame self.size self.active
    (Function.update self.region node ((self.region node).mark false))
  obtain ⟨middle, left', node', frees', first, shaped, releasing, sameSize, same⟩ :=
    coalescePrev_releasing framed freed
  obtain ⟨next, nodes, final, second, result, kept⟩ :=
    coalesceNext_wellFormed shaped releasing (sameSize ▸ small)
  refine ⟨next, nodes, final, ?_, ⟨result.wellFormed, result.sized.trans sameSize⟩, ?_⟩
  · simp only [Allocator.releaseFound, Option.bind_eq_bind]
    rw [first]
    exact second
  · rw [kept, same]
    exact held

theorem offset_injective (layout : Layout self.region self.size self.active nodes)
    (distinct : nodes.Nodup) (first second : Nat) (inFirst : first ∈ nodes)
    (inSecond : second ∈ nodes) (firstFull : 0 < (self.region first).size)
    (secondFull : 0 < (self.region second).size)
    (same : (self.region first).offset = (self.region second).offset) : first = second := by
  by_contra different
  obtain ⟨left, right, rfl⟩ := List.append_of_mem inSecond
  have tiles := layout.tiles
  rw [List.map_append, List.map_cons] at tiles
  have elsewhere : self.region first ∈ left.map self.region ++ right.map self.region := by
    rw [← List.map_append]
    refine List.mem_map_of_mem ?_
    simp only [List.mem_append, List.mem_cons] at inFirst ⊢
    tauto
  exact tiles_offset_ne tiles elsewhere secondFull firstFull same

theorem find_offset (layout : Layout self.region self.size self.active nodes)
    (distinct : nodes.Nodup) (full : 0 < (self.region node).size) (listed : node ∈ nodes)
    (searched : List Nat) (within : searched ⊆ nodes)
    (passive : ∀ other ∈ searched, self.active ≠ some other) :
    searched.find? (fun other => (self.region other).offset == (self.region node).offset) =
      if node ∈ searched then some node else none := by
  have only : ∀ other ∈ searched, (self.region other).offset = (self.region node).offset →
      other = node := by
    intro other member same
    refine offset_injective layout distinct other node (within member) listed ?_ full same
    rcases Nat.eq_zero_or_pos (self.region other).size with zero | positive
    · exact absurd (layout.empty other (within member) zero) (passive other member)
    · exact positive
  by_cases present : node ∈ searched
  · rw [if_pos present]
    cases found : searched.find? (fun other =>
      (self.region other).offset == (self.region node).offset) with
    | none => simpa using List.find?_eq_none.mp found node present
    | some other =>
      have same := List.find?_some found
      rw [only other (List.mem_of_find?_eq_some found) (by simpa using same)]
  · rw [if_neg present, List.find?_eq_none]
    intro other member same
    exact present (only other member (by simpa using same) ▸ member)

def Allocator.foundRegion (self : Allocator) (offset : Nat) : Option Nat := do
  let active ← self.active
  let starts := fun region => (self.region region).offset == offset
  match ← find self.next starts none self.fuel (self.next active) with
  | some region => some region
  | none => (find self.next starts self.active self.fuel self.front).join

theorem releaseRegion_of_found (size offset : Nat) (found : self.foundRegion offset = some node) :
    self.releaseRegion size offset = self.releaseFound node := by
  cases isActive : self.active with
  | none => simp [Allocator.foundRegion, isActive] at found
  | some active =>
    simp only [Allocator.foundRegion, isActive, Option.bind_eq_bind, Option.bind_some] at found
    simp only [Allocator.releaseRegion, Allocator.release, isActive, Option.bind_eq_bind,
      Option.bind_some]
    cases behind : find self.next (fun region => (self.region region).offset == offset) none
        self.fuel (self.next active) with
    | none => simp [behind] at found
    | some result =>
      simp only [behind, Option.bind_some] at found ⊢
      cases result with
      | some region =>
        obtain rfl : region = node := Option.some.inj found
        cases released : self.releaseFound region <;> simp [released]
      | none =>
        simp only [Option.bind_some]
        cases ahead : find self.next (fun region => (self.region region).offset == offset)
            (some active) self.fuel self.front with
        | none => simp [ahead] at found
        | some result =>
          obtain rfl : result = some node := by simpa [ahead] using found
          cases released : self.releaseFound node <;> simp [isActive, ahead, released]

theorem found_of_held (wellFormed : WellFormed self nodes frees) (size offset : Nat)
    (held : (size, offset) ∈ self.outstanding nodes) :
    ∃ node ∈ nodes, self.region node = ⟨true, size, offset⟩ ∧
      self.foundRegion offset = some node := by
  obtain ⟨node, listed, allocated, rfl, rfl⟩ : ∃ node ∈ nodes,
      (self.region node).allocated = true ∧ (self.region node).size = size ∧
        (self.region node).offset = offset := by
    simp only [Allocator.outstanding, ledger, List.mem_map, List.mem_filter, Prod.mk.injEq] at held
    obtain ⟨region, ⟨⟨node, listed, rfl⟩, allocated⟩, sized, placed⟩ := held
    exact ⟨node, listed, allocated, sized, placed⟩
  refine ⟨node, listed, by rw [← allocated], ?_⟩
  obtain ⟨active, activeListed, isActive, unallocated⟩ := wellFormed.layout.available
  have different : node ≠ active := by
    rintro rfl
    simp [allocated] at unallocated
  have full : 0 < (self.region node).size := by
    rcases Nat.eq_zero_or_pos (self.region node).size with zero | positive
    · have same := wellFormed.layout.empty node listed zero
      rw [isActive, Option.some.injEq] at same
      exact absurd same.symm different
    · exact positive
  obtain ⟨left, right, rfl⟩ := List.append_of_mem activeListed
  have shape := wellFormed.shape
  obtain ⟨apartLeft, apartRight⟩ := shape.apart
  have length := shape.length_lt
  rw [List.length_append, List.length_cons] at length
  obtain ⟨middle, before, head, after⟩ := (path_append _ _ _ _ _).mp shape.forwards
  have passive (searched : List Nat) (apart : ∀ other ∈ searched, other ≠ active) :
      ∀ other ∈ searched, self.active ≠ some other := by
    intro other member same
    rw [isActive, Option.some.injEq] at same
    exact apart other member same.symm
  have findRight := find_path
    (fun other => (self.region other).offset == (self.region node).offset) after (by simp)
    self.fuel (by omega)
  rw [find_offset wellFormed.layout shape.nodup full listed right (by simp)
    (passive right apartRight)] at findRight
  by_cases behind : node ∈ right
  · rw [if_pos behind] at findRight
    simp only [Allocator.foundRegion, isActive, Option.bind_eq_bind, Option.bind_some, findRight]
  · have ahead : node ∈ left := by
      simp only [List.mem_append, List.mem_cons] at listed
      tauto
    have findLeft := find_path
      (fun other => (self.region other).offset == (self.region node).offset)
      (show Path self.next self.front left self.active by rw [isActive, ← head]; exact before)
      (fun other member => (passive left apartLeft other member).symm) self.fuel (by omega)
    rw [find_offset wellFormed.layout shape.nodup full listed left (by simp)
      (passive left apartLeft), if_pos ahead] at findLeft
    rw [if_neg behind] at findRight
    rw [isActive] at findLeft
    simp only [Allocator.foundRegion, isActive, Option.bind_eq_bind, Option.bind_some, findRight,
      findLeft, Option.join_some]

theorem releaseRegion_wellFormed (wellFormed : WellFormed self nodes frees) (size offset : Nat)
    (held : (size, offset) ∈ self.outstanding nodes) :
    ∃ next nodes' frees', self.releaseRegion size offset = some next ∧
      Successor self next nodes' frees' ∧
      (self.outstanding nodes).Perm ((size, offset) :: next.outstanding nodes') := by
  obtain ⟨node, listed, region, found⟩ := found_of_held wellFormed size offset held
  obtain ⟨before, after, rfl⟩ := List.append_of_mem listed
  have released := releaseFound_wellFormed wellFormed (by rw [region])
  rw [region] at released
  rw [releaseRegion_of_found size offset found]
  exact released

end Operations

def Sound (client : Client) : Prop :=
  ∃ nodes frees, WellFormed client.allocator nodes frees ∧
    client.held.Perm (client.allocator.outstanding nodes)

theorem step_sound (client : Client) (event : Event) (sound : Sound client)
    (permitted : client.Permitted event) :
    ∃ next, client.step event = some next ∧ Sound next := by
  obtain ⟨nodes, frees, wellFormed, held⟩ := sound
  cases event with
  | reset size =>
    obtain ⟨result, none⟩ := reset_wellFormed client.allocator size permitted
    exact ⟨_, rfl, _, _, result, by rw [none]⟩
  | allocateRegion size =>
    rcases allocateRegion_wellFormed wellFormed size permitted.1 with
      ⟨missed, -⟩ | ⟨offset, allocator, nodes', frees', taken, -, result, bound, added⟩
    · refine ⟨client, ?_, nodes, frees, wellFormed, held⟩
      simp only [Client.step, missed, Option.bind_eq_bind, Option.bind_some, if_true]
    · refine ⟨{ allocator, held := (size, offset) :: client.held }, ?_, nodes', frees',
        result.wellFormed, (held.cons _).trans added.symm⟩
      simp only [Client.step, taken, Option.bind_eq_bind, Option.bind_some,
        if_neg (Nat.ne_of_lt bound)]
  | releaseRegion size offset =>
    obtain ⟨allocator, nodes', frees', released, result, removed⟩ :=
      releaseRegion_wellFormed wellFormed size offset (held.subset permitted)
    refine ⟨{ allocator, held := client.held.erase (size, offset) }, ?_, nodes', frees',
      result.wellFormed, ?_⟩
    · simp only [Client.step, released, Option.bind_eq_bind, Option.bind_some]
    · have erased := (held.trans removed).erase (size, offset)
      simpa using erased

theorem start_sound (size : Nat) (small : size < 2 ^ 64) : Sound (.start size) := by
  obtain ⟨result, none⟩ := reset_wellFormed { size } size small
  exact ⟨_, _, result, by rw [Client.start, none]⟩

-- Every call of a client that keeps to the rules returns, and the regions the allocator then has
-- partition the buffer.
theorem regions_partition_buffer (size : Nat) (small : size < 2 ^ 64) (events : List Event)
    (permitted : Meets Client.step Client.Permitted (.start size) events) :
    ∃ final nodes frees, run Client.step (.start size) events = some final ∧
      -- `front_`, `back_`, `next` and `prev` agree on the list of regions.
      Path final.allocator.next final.allocator.front nodes none ∧
      Path final.allocator.prev final.allocator.back nodes.reverse none ∧
      -- The regions partition the buffer in offset order.
      Chain Tile 0 (nodes.map final.allocator.region) final.allocator.size ∧
      (∃ active ∈ nodes, final.allocator.active = some active ∧
        (final.allocator.region active).allocated = false) ∧
      Coalesced (nodes.map final.allocator.region) ∧
      (∀ node ∈ nodes, (final.allocator.region node).size = 0 →
        final.allocator.active = some node) ∧
      -- The lookaside list shares no region with it.
      Path final.allocator.next final.allocator.free frees none ∧
      (nodes ++ frees).Nodup := by
  obtain ⟨final, reached, nodes, frees, ⟨shape, layout, -⟩, -⟩ :=
    run_of_step Client.step Client.Permitted Sound step_sound _ events (start_sound size small)
      permitted
  exact ⟨final, nodes, frees, reached, shape.forwards, shape.backwards, layout.tiles,
    layout.available, layout.coalesced, layout.empty, shape.lookaside, shape.distinct⟩

theorem regions_partition_buffer_fragmented :
    ∃ final nodes frees, run Client.step (.start 10) [.allocateRegion 4, .allocateRegion 6,
        .releaseRegion 4 0, .allocateRegion 2, .releaseRegion 6 4, .allocateRegion 9,
        .reset 3, .allocateRegion 3] = some final ∧
      Path final.allocator.next final.allocator.front nodes none ∧ (nodes ++ frees).Nodup := by
  obtain ⟨final, nodes, frees, reached, forwards, -, -, -, -, -, -, distinct⟩ :=
    regions_partition_buffer 10 (by decide)
      [.allocateRegion 4, .allocateRegion 6, .releaseRegion 4 0, .allocateRegion 2,
        .releaseRegion 6 4, .allocateRegion 9, .reset 3, .allocateRegion 3] (by decide)
  exact ⟨final, nodes, frees, reached, forwards, distinct⟩

end MojoMedia.FifoAllocator
