import Mathlib.Data.List.Chain
import MojoMedia.Shared.Ring
import MojoMedia.Transport.FifoAllocatorLists

set_option autoImplicit false

namespace MojoMedia.FifoAllocator

open LinkedList Ring

def Tile (region : Region) (before after : Nat) : Prop :=
  region.offset = before ∧ after = before + region.size

def Coalesced (regions : List Region) : Prop :=
  regions.IsChain fun left right => left.allocated = true ∨ right.allocated = true

def ledger (regions : List Region) : List (Nat × Nat) :=
  (regions.filter (·.allocated)).map fun region => (region.size, region.offset)

theorem tiles_cons (region : Region) (rest : List Region) (first last : Nat) :
    Chain Tile first (region :: rest) last ↔
      region.offset = first ∧ Chain Tile (first + region.size) rest last := by
  constructor
  · rintro ⟨middle, -, ⟨offset, rfl⟩, later⟩
    exact ⟨offset, later⟩
  · rintro ⟨offset, later⟩
    exact ⟨_, Nat.le_add_right _ _, ⟨offset, rfl⟩, later⟩

theorem tiles_middle (left right : List Region) (region : Region) (first last : Nat) :
    Chain Tile first (left ++ region :: right) last ↔
      Chain Tile first left region.offset ∧
        Chain Tile (region.offset + region.size) right last := by
  simp only [chain_append, tiles_cons]
  constructor
  · rintro ⟨middle, before, rfl, after⟩
    exact ⟨before, after⟩
  · rintro ⟨before, after⟩
    exact ⟨_, before, rfl, after⟩

theorem tiles_bound {left right : List Region} {region : Region} {last : Nat}
    (tiles : Chain Tile 0 (left ++ region :: right) last) :
    region.offset + region.size ≤ last :=
  chain_le ((tiles_middle _ _ _ _ _).mp tiles).2

theorem tiles_offset_ne {left right : List Region} {region other : Region} {last : Nat}
    (tiles : Chain Tile 0 (left ++ region :: right) last) (member : other ∈ left ++ right)
    (full : 0 < region.size) (otherFull : 0 < other.size) : other.offset ≠ region.offset := by
  obtain ⟨before, after⟩ := (tiles_middle _ _ _ _ _).mp tiles
  rcases List.mem_append.mp member with inLeft | inRight
  · obtain ⟨start, stop, -, -, bound, rfl, rfl⟩ := chain_mem before other inLeft
    omega
  · obtain ⟨start, stop, bound, -, -, rfl, -⟩ := chain_mem after other inRight
    omega

@[simp] theorem ledger_append (left right : List Region) :
    ledger (left ++ right) = ledger left ++ ledger right := by
  simp [ledger]

theorem ledger_cons_allocated (region : Region) (rest : List Region)
    (allocated : region.allocated = true) :
    ledger (region :: rest) = (region.size, region.offset) :: ledger rest := by
  simp [ledger, allocated]

theorem ledger_cons_unallocated (region : Region) (rest : List Region)
    (unallocated : region.allocated = false) : ledger (region :: rest) = ledger rest := by
  simp [ledger, unallocated]

theorem map_update_of_notMem {Value : Type} (nodes : List Nat) (node : Nat) (f : Nat → Value)
    (value : Value) (absent : node ∉ nodes) :
    nodes.map (Function.update f node value) = nodes.map f := by
  refine List.map_congr_left fun other member => Function.update_of_ne ?_ _ _
  rintro rfl
  exact absent member

theorem map_update_middle (region : Nat → Region) (left right : List Nat) (node : Nat)
    (value : Region) (absentLeft : node ∉ left) (absentRight : node ∉ right) :
    (left ++ node :: right).map (Function.update region node value) =
      left.map region ++ value :: right.map region := by
  rw [List.map_append, List.map_cons, Function.update_self,
    map_update_of_notMem _ _ _ _ absentLeft, map_update_of_notMem _ _ _ _ absentRight]

theorem coalesced_allocate (before after : List Region) (region allocated : Region)
    (coalesced : Coalesced (before ++ region :: after)) (now : allocated.allocated = true) :
    Coalesced (before ++ allocated :: after) := by
  simp only [Coalesced, List.isChain_append, List.isChain_cons, List.head?_cons,
    Option.mem_some_iff, forall_eq'] at coalesced ⊢
  obtain ⟨first, ⟨-, second⟩, -⟩ := coalesced
  exact ⟨first, ⟨fun _ _ => .inl now, second⟩, fun _ _ => .inr now⟩

theorem coalesced_insert (before after : List Region) (region : Region)
    (coalesced : Coalesced (before ++ after))
    (previous : ∀ other ∈ before.getLast?, other.allocated = true)
    (following : ∀ other ∈ after.head?, other.allocated = true) :
    Coalesced (before ++ region :: after) := by
  simp only [Coalesced, List.isChain_append, List.isChain_cons, List.head?_cons,
    Option.mem_some_iff, forall_eq'] at coalesced ⊢
  obtain ⟨first, second, -⟩ := coalesced
  exact ⟨first, ⟨fun other member => .inr (following other member), second⟩,
    fun other member => .inl (previous other member)⟩

theorem coalesced_remove (before after : List Region) (region : Region)
    (coalesced : Coalesced (before ++ region :: after)) (unallocated : region.allocated = false) :
    Coalesced (before ++ after) := by
  simp only [Coalesced, List.isChain_append, List.isChain_cons, List.head?_cons,
    Option.mem_some_iff, forall_eq'] at coalesced ⊢
  obtain ⟨first, ⟨-, second⟩, beforeIt⟩ := coalesced
  refine ⟨first, second, fun last atEnd head atStart => ?_⟩
  rcases beforeIt last atEnd with allocated | allocated
  · exact .inl allocated
  · simp [unallocated] at allocated

theorem coalesced_congr (before after : List Region) (region other : Region)
    (coalesced : Coalesced (before ++ region :: after))
    (same : other.allocated = region.allocated) : Coalesced (before ++ other :: after) := by
  simpa only [Coalesced, List.isChain_append, List.isChain_cons, List.head?_cons,
    Option.mem_some_iff, forall_eq', same] using coalesced

structure Layout (region : Nat → Region) (size : Nat) (active : Option Nat)
    (nodes : List Nat) : Prop where
  tiles : Chain Tile 0 (nodes.map region) size
  coalesced : Coalesced (nodes.map region)
  available : ∃ node ∈ nodes, active = some node ∧ (region node).allocated = false
  empty : ∀ node ∈ nodes, (region node).size = 0 → active = some node

section Layout

variable {region : Nat → Region} {size : Nat} {nodes left right : List Nat} {node : Nat}

theorem layout_placeholder {beforeThis : Nat} (newActive : Nat)
    (tiles : Chain Tile 0 ((left ++ beforeThis :: right).map region) size)
    (coalesced : Coalesced ((left ++ beforeThis :: right).map region))
    (full : ∀ node ∈ left ++ beforeThis :: right, 0 < (region node).size)
    (previous : ∀ other ∈ left.getLast?, (region other).allocated = true)
    (following : (region beforeThis).allocated = true)
    (fresh : newActive ∉ left ++ beforeThis :: right) :
    Layout (Function.update region newActive ⟨false, 0, (region beforeThis).offset⟩) size
        (some newActive) (left ++ newActive :: beforeThis :: right) ∧
      ledger ((left ++ newActive :: beforeThis :: right).map
          (Function.update region newActive ⟨false, 0, (region beforeThis).offset⟩)) =
        ledger ((left ++ beforeThis :: right).map region) := by
  have mapped : (left ++ newActive :: beforeThis :: right).map
      (Function.update region newActive ⟨false, 0, (region beforeThis).offset⟩) =
      left.map region ++ ⟨false, 0, (region beforeThis).offset⟩ ::
        (beforeThis :: right).map region := by
    rw [List.mem_append, not_or] at fresh
    exact map_update_middle region left (beforeThis :: right) newActive _ fresh.1 fresh.2
  rw [List.map_append] at tiles coalesced
  refine ⟨?_, by rw [mapped, List.map_append, ledger_append, ledger_append,
    ledger_cons_unallocated _ _ rfl]⟩
  constructor
  · rw [mapped, tiles_middle, List.map_cons, tiles_cons]
    rw [List.map_cons, tiles_middle] at tiles
    exact ⟨tiles.1, rfl, tiles.2⟩
  · rw [mapped]
    refine coalesced_insert _ _ _ coalesced ?_ (by simpa using following)
    intro other member
    rw [List.getLast?_map, Option.mem_map] at member
    obtain ⟨last, atEnd, rfl⟩ := member
    exact previous last atEnd
  · exact ⟨newActive, by simp, rfl, by simp⟩
  · intro node member zero
    by_cases isNew : node = newActive
    · rw [isNew]
    · have listed : node ∈ left ++ beforeThis :: right := by
        simp only [List.mem_append, List.mem_cons] at member ⊢
        tauto
      have positive := full node listed
      rw [Function.update_of_ne isNew] at zero
      omega

-- No region but the active one can be empty, so one that is not is followed by others.
theorem Layout.full (layout : Layout region size (some node) nodes)
    (sized : 0 < (region node).size) (other : Nat) (member : other ∈ nodes) :
    0 < (region other).size := by
  rcases Nat.eq_zero_or_pos (region other).size with zero | positive
  · have same : node = other := by simpa using layout.empty other member zero
    exact same ▸ sized
  · exact positive

theorem Layout.unallocated (layout : Layout region size (some node) nodes) :
    node ∈ nodes ∧ (region node).allocated = false := by
  obtain ⟨active, member, same, unallocated⟩ := layout.available
  obtain rfl : node = active := by simpa using same
  exact ⟨member, unallocated⟩

theorem Layout.allocate (layout : Layout region size (some node) (left ++ node :: right))
    (sized : 0 < (region node).size) (absentLeft : node ∉ left) (absentRight : node ∉ right) :
    let allocated := Function.update region node ((region node).mark true)
    Chain Tile 0 ((left ++ node :: right).map allocated) size ∧
      Coalesced ((left ++ node :: right).map allocated) ∧
      (∀ other ∈ left ++ node :: right, 0 < (allocated other).size) ∧
      (ledger ((left ++ node :: right).map allocated)).Perm
        (((region node).size, (region node).offset) ::
          ledger ((left ++ node :: right).map region)) := by
  intro allocated
  have mapped : (left ++ node :: right).map allocated =
      left.map region ++ (region node).mark true :: right.map region :=
    map_update_middle region left right node _ absentLeft absentRight
  have tiles := layout.tiles
  have coalesced := layout.coalesced
  rw [List.map_append, List.map_cons] at tiles coalesced
  rw [mapped]
  refine ⟨?_, coalesced_allocate _ _ _ _ coalesced rfl, ?_, ?_⟩
  · rw [tiles_middle] at tiles ⊢
    exact tiles
  · intro other member
    have positive := layout.full sized other member
    by_cases same : other = node
    · subst same
      simpa [allocated, Region.mark] using positive
    · simpa [allocated, Function.update_of_ne same] using positive
  · rw [List.map_append, List.map_cons, ledger_append, ledger_append,
      ledger_cons_allocated _ _ rfl, ledger_cons_unallocated _ _ layout.unallocated.2]
    exact List.perm_middle

theorem Layout.split (layout : Layout region size (some node) (left ++ node :: right))
    (amount : Nat) (positive : 0 < amount) (fits : amount < (region node).size)
    (absentLeft : node ∉ left) (absentRight : node ∉ right) (added : Nat)
    (fresh : added ∉ left ++ node :: right) :
    let cut := Function.update (Function.update region added ⟨true, amount, (region node).offset⟩)
      node ((region node).cut amount)
    Layout cut size (some node) (left ++ added :: node :: right) ∧
      (ledger ((left ++ added :: node :: right).map cut)).Perm
        ((amount, (region node).offset) :: ledger ((left ++ node :: right).map region)) := by
  intro cut
  have other : added ≠ node := by
    rintro rfl
    exact fresh (by simp)
  simp only [List.mem_append, List.mem_cons, not_or] at fresh
  have cutNode : cut node = (region node).cut amount := Function.update_self _ _ _
  have cutAdded : cut added = ⟨true, amount, (region node).offset⟩ := by
    simp only [cut, Function.update_of_ne other, Function.update_self]
  have mapped : (left ++ added :: node :: right).map cut =
      left.map region ++ ⟨true, amount, (region node).offset⟩ ::
        (region node).cut amount :: right.map region := by
    have inner : (node :: right).map cut = (region node).cut amount :: right.map region := by
      rw [List.map_cons, cutNode, map_update_of_notMem _ _ _ _ absentRight,
        map_update_of_notMem _ _ _ _ fresh.2.2]
    rw [List.map_append, List.map_cons, inner, map_update_of_notMem _ _ _ _ absentLeft,
      map_update_of_notMem _ _ _ _ fresh.1]
    rw [cutAdded]
  have tiles := layout.tiles
  have coalesced := layout.coalesced
  have unallocated := layout.unallocated.2
  rw [List.map_append, List.map_cons] at tiles coalesced
  refine ⟨?_, ?_⟩
  · constructor
    · rw [mapped]
      rw [tiles_middle] at tiles
      rw [tiles_middle, tiles_cons]
      refine ⟨tiles.1, rfl, ?_⟩
      have total : (region node).offset + amount + ((region node).size - amount) =
          (region node).offset + (region node).size := by omega
      simpa only [Region.cut, total] using tiles.2
    · rw [mapped]
      have kept := coalesced_congr _ _ _ ((region node).cut amount) coalesced rfl
      simp only [Coalesced, List.isChain_append, List.isChain_cons, List.head?_cons,
        Option.mem_some_iff, forall_eq'] at kept ⊢
      exact ⟨kept.1, ⟨.inl trivial, kept.2.1⟩, fun _ _ => .inr trivial⟩
    · exact ⟨node, by simp, rfl, by simpa [cut, Region.cut] using unallocated⟩
    · intro member listed zero
      by_cases same : member = node
      · rw [same]
      by_cases isAdded : member = added
      · simp only [isAdded, cutAdded] at zero
        omega
      · rw [show cut member = region member by simp [cut, same, isAdded]] at zero
        refine layout.empty member ?_ zero
        simp only [List.mem_append, List.mem_cons] at listed ⊢
        tauto
  · rw [mapped, List.map_append, List.map_cons, ledger_append, ledger_append,
      ledger_cons_allocated _ _ rfl,
      ledger_cons_unallocated ((region node).cut amount) _ unallocated,
      ledger_cons_unallocated (region node) _ unallocated]
    exact List.perm_middle

theorem Layout.moveTo (layout : Layout region size (some node) nodes) (other : Nat)
    (member : other ∈ nodes) (unallocated : (region other).allocated = false)
    (sized : 0 < (region node).size) : Layout region size (some other) nodes := by
  refine ⟨layout.tiles, layout.coalesced, ⟨other, member, rfl, unallocated⟩, ?_⟩
  intro empty listed zero
  have positive := layout.full sized empty listed
  omega

theorem Layout.dropEmpty (layout : Layout region size (some node) (left ++ node :: right))
    (other : Nat) (member : other ∈ left ++ right)
    (unallocated : (region other).allocated = false) (zero : (region node).size = 0)
    (absentLeft : node ∉ left) (absentRight : node ∉ right) :
    Layout region size (some other) (left ++ right) ∧
      ledger ((left ++ right).map region) = ledger ((left ++ node :: right).map region) := by
  have tiles := layout.tiles
  have coalesced := layout.coalesced
  rw [List.map_append, List.map_cons] at tiles coalesced
  refine ⟨⟨?_, ?_, ⟨other, member, rfl, unallocated⟩, ?_⟩, ?_⟩
  · rw [tiles_middle, zero] at tiles
    rw [List.map_append]
    exact (chain_append _ _ _ _).mpr ⟨_, tiles.1, tiles.2⟩
  · rw [List.map_append]
    exact coalesced_remove _ _ _ coalesced layout.unallocated.2
  · intro empty listed none
    have same : node = empty := by
      refine Option.some.inj (layout.empty empty ?_ none)
      simp only [List.mem_append, List.mem_cons] at listed ⊢
      tauto
    subst same
    exact absurd listed (by simp [absentLeft, absentRight])
  · rw [List.map_append, List.map_append, List.map_cons, ledger_append, ledger_append,
      ledger_cons_unallocated _ _ layout.unallocated.2]

structure Freed (region : Nat → Region) (size : Nat) (active : Option Nat) (left : List Nat)
    (node : Nat) (right : List Nat) : Prop where
  tiles : Chain Tile 0 ((left ++ node :: right).map region) size
  before : Coalesced (left.map region)
  after : Coalesced (right.map region)
  freed : (region node).allocated = false
  sized : 0 < (region node).size
  available : ∃ other ∈ left ++ right, active = some other ∧ (region other).allocated = false
  empty : ∀ other ∈ left ++ node :: right, (region other).size = 0 → active = some other

structure Releasing (region : Nat → Region) (size : Nat) (active : Option Nat)
    (left : List Nat) (node : Nat) (right : List Nat) : Prop where
  tiles : Chain Tile 0 ((left ++ node :: right).map region) size
  before : Coalesced (left.map region ++ [region node])
  after : Coalesced (right.map region)
  freed : (region node).allocated = false
  available : ∃ other ∈ left ++ node :: right,
    active = some other ∧ (region other).allocated = false
  empty : ∀ other ∈ left ++ node :: right, (region other).size = 0 → active = some other

variable {active : Option Nat}

theorem Layout.release (layout : Layout region size active (left ++ node :: right))
    (allocated : (region node).allocated = true) (absentLeft : node ∉ left)
    (absentRight : node ∉ right) :
    let freed := Function.update region node ((region node).mark false)
    Freed freed size active left node right ∧
      (ledger ((left ++ node :: right).map region)).Perm
        (((region node).size, (region node).offset) ::
          ledger ((left ++ node :: right).map freed)) := by
  intro freed
  have freedNode : freed node = (region node).mark false := Function.update_self _ _ _
  have freedOther (other : Nat) (different : other ≠ node) : freed other = region other :=
    Function.update_of_ne different _ _
  have mapped : (left ++ node :: right).map freed =
      left.map region ++ (region node).mark false :: right.map region :=
    map_update_middle region left right node _ absentLeft absentRight
  have tiles := layout.tiles
  have coalesced := layout.coalesced
  rw [List.map_append, List.map_cons] at tiles coalesced
  obtain ⟨before, -, after⟩ : Coalesced (left.map region) ∧
      Coalesced (region node :: right.map region) ∧ Coalesced (right.map region) := by
    simp only [Coalesced, List.isChain_append, List.isChain_cons] at coalesced ⊢
    exact ⟨coalesced.1, coalesced.2.1, coalesced.2.1.2⟩
  obtain ⟨other, listed, isActive, unallocated⟩ := layout.available
  have different : other ≠ node := by
    rintro rfl
    simp [allocated] at unallocated
  have elsewhere : other ∈ left ++ right := by
    simp only [List.mem_append, List.mem_cons] at listed ⊢
    tauto
  refine ⟨?_, ?_⟩
  · constructor
    · rw [mapped]
      rw [tiles_middle] at tiles ⊢
      exact tiles
    · rwa [map_update_of_notMem _ _ _ _ absentLeft]
    · rwa [map_update_of_notMem _ _ _ _ absentRight]
    · rw [freedNode]
      rfl
    · rw [freedNode]
      rcases Nat.eq_zero_or_pos (region node).size with zero | positive
      · have same := layout.empty node (by simp) zero
        rw [isActive, Option.some.injEq] at same
        exact absurd same different
      · exact positive
    · exact ⟨other, elsewhere, isActive, by rw [freedOther other different, unallocated]⟩
    · intro member inside zero
      refine layout.empty member inside ?_
      by_cases same : member = node
      · rw [same, freedNode] at zero
        rw [same]
        exact zero
      · rwa [freedOther member same] at zero
  · rw [mapped, List.map_append, List.map_cons, ledger_append, ledger_append,
      ledger_cons_allocated _ _ allocated,
      ledger_cons_unallocated ((region node).mark false) _ rfl]
    exact List.perm_middle

theorem Freed.keep (freed : Freed region size active left node right)
    (previous : ∀ other ∈ left.getLast?, (region other).allocated = true) :
    Releasing region size active left node right := by
  refine ⟨freed.tiles, ?_, freed.after, freed.freed, ?_, freed.empty⟩
  · refine coalesced_insert _ [] _ (by simpa using freed.before) ?_ (by simp)
    intro other member
    rw [List.getLast?_map, Option.mem_map] at member
    obtain ⟨last, atEnd, rfl⟩ := member
    exact previous last atEnd
  · obtain ⟨other, listed, isActive, unallocated⟩ := freed.available
    refine ⟨other, ?_, isActive, unallocated⟩
    simp only [List.mem_append, List.mem_cons] at listed ⊢
    tauto

theorem Freed.absorb {prev : Nat} (freed : Freed region size active (left ++ [prev]) node right)
    (unallocated : (region prev).allocated = false)
    (absentLeft : prev ∉ left) (absentRight : prev ∉ right) :
    let merged := Function.update region prev ((region prev).absorbNext (region node))
    Releasing merged size active left prev right ∧
      ledger ((left ++ prev :: right).map merged) =
        ledger ((left ++ [prev] ++ node :: right).map region) := by
  intro merged
  have mergedPrev : merged prev = (region prev).absorbNext (region node) :=
    Function.update_self _ _ _
  have mergedOther (other : Nat) (different : other ≠ prev) : merged other = region other :=
    Function.update_of_ne different _ _
  have mapped : (left ++ prev :: right).map merged =
      left.map region ++ (region prev).absorbNext (region node) :: right.map region :=
    map_update_middle region left right prev _ absentLeft absentRight
  have tiles := freed.tiles
  have before := freed.before
  simp only [List.map_append, List.map_cons, List.map_nil, List.append_assoc,
    List.singleton_append] at tiles before
  refine ⟨?_, ?_⟩
  · constructor
    · rw [mapped]
      rw [tiles_middle, tiles_cons] at tiles
      rw [tiles_middle]
      refine ⟨tiles.1, ?_⟩
      have total : (region prev).offset + (region prev).size + (region node).size =
          (region prev).offset + ((region prev).size + (region node).size) := by omega
      rw [total] at tiles
      exact tiles.2.2
    · rw [map_update_of_notMem _ _ _ _ absentLeft, mergedPrev]
      exact coalesced_congr _ [] _ _ before rfl
    · rw [map_update_of_notMem _ _ _ _ absentRight]
      exact freed.after
    · rw [mergedPrev]
      exact unallocated
    · obtain ⟨other, listed, isActive, free⟩ := freed.available
      refine ⟨other, ?_, isActive, ?_⟩
      · simp only [List.mem_append, List.mem_cons, List.not_mem_nil, or_false] at listed ⊢
        tauto
      · by_cases same : other = prev
        · rw [same, mergedPrev]
          exact unallocated
        · rwa [mergedOther other same]
    · intro other listed zero
      have sized := freed.sized
      by_cases same : other = prev
      · rw [same, mergedPrev] at zero
        simp only [Region.absorbNext] at zero
        omega
      · rw [mergedOther other same] at zero
        refine freed.empty other ?_ zero
        simp only [List.mem_append, List.mem_cons] at listed ⊢
        tauto
  · rw [mapped]
    simp only [List.map_append, List.map_cons, List.append_assoc, List.singleton_append,
      ledger_append]
    rw [ledger_cons_unallocated ((region prev).absorbNext (region node)) _ unallocated,
      ledger_cons_unallocated (region prev) _ unallocated,
      ledger_cons_unallocated (region node) _ freed.freed]

theorem Releasing.keep (releasing : Releasing region size active left node right)
    (following : ∀ other ∈ right.head?, (region other).allocated = true) :
    Layout region size active (left ++ node :: right) := by
  refine ⟨releasing.tiles, ?_, releasing.available, releasing.empty⟩
  have before := releasing.before
  have after := releasing.after
  rw [List.map_append, List.map_cons]
  simp only [Coalesced, List.isChain_append, List.isChain_cons, List.head?_cons,
    Option.mem_some_iff, forall_eq', List.head?_map, Option.mem_map, forall_exists_index,
    and_imp, forall_apply_eq_imp_iff₂] at before after ⊢
  exact ⟨before.1, ⟨fun other member => .inr (following other member), after⟩, before.2.2⟩

theorem Releasing.absorb {next : Nat}
    (releasing : Releasing region size active left node (next :: right))
    (unallocated : (region next).allocated = false) (absent : node ∉ left ++ next :: right)
    (absentLeft : next ∉ left) (absentRight : next ∉ right) :
    let merged := Function.update region next ((region next).absorbPrev (region node))
    Layout merged size (if active = some node then some next else active)
        (left ++ next :: right) ∧
      ledger ((left ++ next :: right).map merged) =
        ledger ((left ++ node :: next :: right).map region) := by
  intro merged
  have mergedNext : merged next = (region next).absorbPrev (region node) :=
    Function.update_self _ _ _
  have mergedOther (other : Nat) (apart : other ≠ next) : merged other = region other :=
    Function.update_of_ne apart _ _
  have mapped : (left ++ next :: right).map merged =
      left.map region ++ (region next).absorbPrev (region node) :: right.map region :=
    map_update_middle region left right next _ absentLeft absentRight
  have tiles := releasing.tiles
  have before := releasing.before
  have after := releasing.after
  simp only [List.map_append, List.map_cons] at tiles before after
  refine ⟨?_, ?_⟩
  · constructor
    · rw [mapped]
      rw [tiles_middle, tiles_cons] at tiles
      rw [tiles_middle]
      refine ⟨tiles.1, ?_⟩
      have total : (region node).offset + (region node).size + (region next).size =
          (region node).offset + ((region next).size + (region node).size) := by omega
      rw [total] at tiles
      exact tiles.2.2
    · rw [mapped]
      have same : ((region next).absorbPrev (region node)).allocated = (region node).allocated :=
        unallocated.trans releasing.freed.symm
      have front := coalesced_congr _ [] _ _ before same
      have back := coalesced_congr [] _ _ ((region next).absorbPrev (region node)) after rfl
      simp only [Coalesced, List.isChain_append, List.isChain_cons, List.head?_cons,
        Option.mem_some_iff, forall_eq', List.nil_append] at front back ⊢
      exact ⟨front.1, ⟨back.1, back.2⟩, front.2.2⟩
    · obtain ⟨other, listed, isActive, free⟩ := releasing.available
      by_cases wasNode : other = node
      · refine ⟨next, by simp, ?_, ?_⟩
        · rw [if_pos (by rw [isActive, wasNode])]
        · rw [mergedNext]
          exact unallocated
      · refine ⟨other, ?_, ?_, ?_⟩
        · simp only [List.mem_append, List.mem_cons] at listed ⊢
          tauto
        · rw [if_neg (by simpa [isActive] using wasNode), isActive]
        · by_cases same : other = next
          · rw [same, mergedNext]
            exact unallocated
          · rwa [mergedOther other same]
    · intro other listed zero
      by_cases same : other = next
      · rw [same, mergedNext] at zero
        simp only [Region.absorbPrev] at zero
        have wasActive := releasing.empty node (by simp) (by omega)
        rw [if_pos wasActive, same]
      · rw [mergedOther other same] at zero
        have wasActive := releasing.empty other (by
          simp only [List.mem_append, List.mem_cons] at listed ⊢
          tauto) zero
        rw [wasActive]
        split
        next isNode => exact absurd (Option.some.inj isNode ▸ listed) absent
        next => rfl
  · rw [mapped]
    simp only [List.map_append, List.map_cons, ledger_append]
    rw [ledger_cons_unallocated ((region next).absorbPrev (region node)) _ unallocated,
      ledger_cons_unallocated (region node) _ releasing.freed,
      ledger_cons_unallocated (region next) _ unallocated]

end Layout

end MojoMedia.FifoAllocator
