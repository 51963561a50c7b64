import Mathlib.Data.List.Basic
import Mathlib.Data.Int.ModEq
import Mathlib.Tactic.Common

set_option autoImplicit false

namespace Ring

def Covers (size start length cell : Nat) : Prop :=
  ∃ position, start ≤ position ∧ position < start + length ∧ position % size = cell

theorem covers_disjoint (size first firstLength second secondLength cell : Nat)
    (order : first + firstLength ≤ second) (window : second + secondLength ≤ first + size)
    (left : Covers size first firstLength cell)
    (right : Covers size second secondLength cell) : False := by
  obtain ⟨p, pFrom, pTo, pCell⟩ := left
  obtain ⟨q, qFrom, qTo, qCell⟩ := right
  have same : p % size = q % size := pCell.trans qCell.symm
  have apart : (q - p) % size = 0 :=
    Nat.mod_eq_zero_of_dvd ((Nat.modEq_iff_dvd' (by omega)).mp same)
  have short : q - p < size := by omega
  rw [Nat.mod_eq_of_lt short] at apart
  omega

theorem add_mod_of_lt (size position length : Nat) (fits : position % size + length < size) :
    (position + length) % size = position % size + length := by
  rw [Nat.add_mod, Nat.mod_eq_of_lt (show length < size by omega)]
  exact Nat.mod_eq_of_lt fits

theorem add_mod_of_le (size position length : Nat) (positive : 0 < size)
    (short : length ≤ size) (wraps : size ≤ position % size + length) :
    (position + length) % size = position % size + length - size := by
  have below : position % size < size := Nat.mod_lt _ positive
  have split : position % size + length = (position % size + length - size) + size := by omega
  rw [← Nat.mod_add_mod, split, Nat.add_mod_right, Nat.add_sub_cancel]
  exact Nat.mod_eq_of_lt (by omega)

def distance (size origin target : Nat) : Nat :=
  if origin ≤ target then target - origin else target + size - origin

theorem distance_eq (size first second : Nat) (positive : 0 < size) (order : first ≤ second)
    (window : second < first + size) :
    distance size (first % size) (second % size) = second - first := by
  obtain ⟨gap, rfl⟩ := Nat.exists_eq_add_of_le order
  have below : first % size < size := Nat.mod_lt _ positive
  by_cases fits : first % size + gap < size
  · rw [add_mod_of_lt size first gap fits, distance, if_pos (by omega)]
    omega
  · rw [add_mod_of_le size first gap positive (by omega) (by omega), distance,
      if_neg (by omega)]
    omega

theorem distance_lt (size origin target : Nat) (originIn : origin < size)
    (targetIn : target < size) : distance size origin target < size := by
  unfold distance
  split <;> omega

theorem mod_distance (size origin target : Nat) (originIn : origin < size)
    (targetIn : target < size) : (origin + distance size origin target) % size = target := by
  unfold distance
  split
  next ahead =>
    rw [Nat.add_sub_cancel' ahead, Nat.mod_eq_of_lt targetIn]
  next behind =>
    have around : origin + (target + size - origin) = target + size := by omega
    rw [around, Nat.add_mod_right, Nat.mod_eq_of_lt targetIn]

def gaps (size : Nat) : Nat → List Nat → List Nat
  | _, [] => []
  | origin, mark :: rest => distance size origin mark :: gaps size mark rest

theorem getLastD_append (origin : Nat) (left right : List Nat) :
    (left ++ right).getLastD origin = right.getLastD (left.getLastD origin) := by
  induction left generalizing origin with
  | nil => rfl
  | cons mark rest ih => rw [List.cons_append, List.getLastD_cons, List.getLastD_cons, ih]

theorem gaps_append (size origin : Nat) (left right : List Nat) :
    gaps size origin (left ++ right) =
      gaps size origin left ++ gaps size (left.getLastD origin) right := by
  induction left generalizing origin with
  | nil => rfl
  | cons mark rest ih => simp only [List.cons_append, gaps, ih, List.getLastD_cons]

def Chain {Item : Type} (places : Item → Nat → Nat → Prop) : Nat → List Item → Nat → Prop
  | first, [], last => first = last
  | first, item :: rest, last =>
    ∃ middle, first ≤ middle ∧ places item first middle ∧ Chain places middle rest last

section Chain

variable {Item : Type} {places : Item → Nat → Nat → Prop}

theorem chain_le {first last : Nat} {items : List Item}
    (chain : Chain places first items last) : first ≤ last := by
  induction items generalizing first with
  | nil => exact Nat.le_of_eq chain
  | cons item rest ih =>
    obtain ⟨middle, order, -, later⟩ := chain
    exact Nat.le_trans order (ih later)

theorem chain_append (first last : Nat) (left right : List Item) :
    Chain places first (left ++ right) last ↔
      ∃ middle, Chain places first left middle ∧ Chain places middle right last := by
  induction left generalizing first with
  | nil => simp [Chain]
  | cons item rest ih =>
    simp only [List.cons_append, Chain, ih]
    constructor
    · rintro ⟨next, order, placed, middle, before, after⟩
      exact ⟨middle, ⟨next, order, placed, before⟩, after⟩
    · rintro ⟨middle, ⟨next, order, placed, before⟩, after⟩
      exact ⟨next, order, placed, middle, before, after⟩

theorem chain_snoc (first last : Nat) (items : List Item) (item : Item) :
    Chain places first (items ++ [item]) last ↔
      ∃ middle, Chain places first items middle ∧ middle ≤ last ∧ places item middle last := by
  rw [chain_append]
  constructor
  · rintro ⟨middle, before, next, order, placed, rfl⟩
    exact ⟨middle, before, order, placed⟩
  · rintro ⟨middle, before, order, placed⟩
    exact ⟨middle, before, last, order, placed, rfl⟩

theorem chain_mem {first last : Nat} {items : List Item}
    (chain : Chain places first items last) (item : Item) (member : item ∈ items) :
    ∃ before after, first ≤ before ∧ before ≤ after ∧ after ≤ last ∧
      places item before after := by
  induction items generalizing first with
  | nil => cases member
  | cons head rest ih =>
    obtain ⟨middle, order, placed, later⟩ := chain
    rcases List.mem_cons.mp member with rfl | inRest
    · exact ⟨first, middle, Nat.le_refl _, order, chain_le later, placed⟩
    · obtain ⟨before, after, left, inner, right, placed⟩ := ih later inRest
      exact ⟨before, after, Nat.le_trans order left, inner, right, placed⟩

theorem chain_pairwise {first last : Nat} {items : List Item} {apart : Item → Item → Prop}
    (chain : Chain places first items last)
    (separate : ∀ left right a b c d, first ≤ a → b ≤ c → d ≤ last →
      places left a b → places right c d → apart left right) :
    items.Pairwise apart := by
  induction items generalizing first with
  | nil => exact List.Pairwise.nil
  | cons head rest ih =>
    obtain ⟨middle, order, placed, later⟩ := chain
    refine List.Pairwise.cons ?_ (ih later ?_)
    · intro item member
      obtain ⟨before, after, left, -, right, itemPlaced⟩ := chain_mem later item member
      exact separate head item first middle before after (Nat.le_refl _) left right placed
        itemPlaced
    · intro left right a b c d fromHere
      exact separate left right a b c d (Nat.le_trans order fromHere)

theorem chain_map {Other : Type} {others : Other → Nat → Nat → Prop} (f : Item → Other)
    {first last : Nat} {items : List Item} (chain : Chain places first items last)
    (image : ∀ item before after, places item before after → others (f item) before after) :
    Chain others first (items.map f) last := by
  induction items generalizing first with
  | nil => exact chain
  | cons head rest ih =>
    obtain ⟨middle, order, placed, later⟩ := chain
    exact ⟨middle, order, image head first middle placed, ih later⟩

theorem gaps_of_chain (size : Nat) (mark : Item → Nat)
    (marked : ∀ item before after, places item before after → mark item = after % size)
    {first last : Nat} {items : List Item} (chain : Chain places first items last)
    (window : last < first + size) :
    (gaps size (first % size) (items.map mark)).sum = last - first ∧
      (items.map mark).getLastD (first % size) = last % size := by
  induction items generalizing first with
  | nil =>
    obtain rfl : first = last := chain
    simp [gaps]
  | cons item rest ih =>
    obtain ⟨middle, order, placed, later⟩ := chain
    have further := chain_le later
    obtain ⟨sum, lastMark⟩ := ih later (by omega)
    rw [List.map_cons, marked item first middle placed, gaps, List.sum_cons, sum,
      distance_eq size first middle (by omega) order (by omega), List.getLastD_cons]
    exact ⟨by omega, lastMark⟩

end Chain

end Ring
