import Mathlib.Data.Finset.Max
import MojoMedia.Framework.Stages
import MojoMedia.Shared.Runs

set_option autoImplicit false

-- Where an assertion fails there is no next state. What the stage signals upstream is left out.
namespace MojoMedia.Framework

structure SinkStageInput where
  connected : Bool := false
  packetFromUpstream : Option Packet := none
  allocated : Bool := false
  demand : Demand := .negative
  deriving Repr, DecidableEq

structure ActiveMultistreamSinkStage where
  inputs : List SinkStageInput := []
  unallocatedInputs : Finset Nat := ∅
  pendingInputs : List Nat := []
  deriving DecidableEq

namespace ActiveMultistreamSinkStage

def reallocate (stage : ActiveMultistreamSinkStage) (index : Nat) :
    Option (ActiveMultistreamSinkStage × Nat) := do
  let input ← stage.inputs[index]?
  if input.allocated then none
  else
    some ({ stage with
      inputs := stage.inputs.set index { input with allocated := true }
      unallocatedInputs := stage.unallocatedInputs.erase index }, index)

def allocateInput (stage : ActiveMultistreamSinkStage) :
    Option (ActiveMultistreamSinkStage × Nat) :=
  if released : stage.unallocatedInputs.Nonempty then
    stage.reallocate (stage.unallocatedInputs.min' released)
  else some ({ stage with inputs := stage.inputs ++ [{ allocated := true }] }, stage.inputs.length)

def passes (inputs : List SinkStageInput) (test : SinkStageInput → Bool) (index : Nat) : Bool :=
  (inputs[index]?).any test

def Allocated (stage : ActiveMultistreamSinkStage) (index : Nat) : Prop :=
  passes stage.inputs (·.allocated) index

instance (stage : ActiveMultistreamSinkStage) (index : Nat) : Decidable (stage.Allocated index) :=
  inferInstanceAs (Decidable (_ = _))

def popInputs : Nat → ActiveMultistreamSinkStage → ActiveMultistreamSinkStage
  | 0, stage => stage
  | last + 1, stage =>
    if 0 < last ∧ ¬ stage.Allocated last then
      popInputs last { stage with
        inputs := stage.inputs.take last
        unallocatedInputs := stage.unallocatedInputs.erase last }
    else stage

def free (stage : ActiveMultistreamSinkStage) (index : Nat) (input : SinkStageInput) :
    ActiveMultistreamSinkStage :=
  { stage with inputs := stage.inputs.set index { input with allocated := false } }

def releaseInput (stage : ActiveMultistreamSinkStage) (index : Nat) :
    Option ActiveMultistreamSinkStage := do
  let input ← stage.inputs[index]?
  if ¬ input.allocated ∨ input.connected then none
  else
    let released := stage.free index input
    if index ≠ 0 ∧ index + 1 = stage.inputs.length then
      some (released.popInputs stage.inputs.length)
    else some { released with unallocatedInputs := insert index stage.unallocatedInputs }

def updateDemand (stage : ActiveMultistreamSinkStage) (index : Nat) (demand : Demand) :
    Option ActiveMultistreamSinkStage := do
  let input ← stage.inputs[index]?
  if demand = .negative then none
  else
    some { stage with
      inputs := stage.inputs.set index { input with demand }
      pendingInputs := stage.pendingInputs ++ [index] }

def flushInput (stage : ActiveMultistreamSinkStage) (index : Nat) :
    Option ActiveMultistreamSinkStage := do
  let input ← stage.inputs[index]?
  some { stage with
    inputs := stage.inputs.set index { input with
      demand := .negative
      packetFromUpstream := none }
    pendingInputs := stage.pendingInputs.filter (· ≠ index) }

-- The loop over the pending inputs. `kept` are those that stay pending, and `count` counts the
-- packets the sink has been supplied with. `SetDemand` needs a mate.
def updatePending (answers : Nat → Demand) : List Nat → Nat → List Nat →
    List SinkStageInput → Option (List SinkStageInput × List Nat)
  | [], _, kept, inputs => some (inputs, kept)
  | index :: rest, count, kept, inputs => do
    let input ← inputs[index]?
    if ¬ input.connected then none
    else if input.packetFromUpstream.isSome then
      let supplied := inputs.set index { input with
        demand := answers count
        packetFromUpstream := none }
      -- An input that stays pending is looked at again, and then holds no packet.
      updatePending answers rest (count + 1)
        (if answers count = .negative then kept else kept ++ [index]) supplied
    else updatePending answers rest count (kept ++ [index]) inputs

def update (stage : ActiveMultistreamSinkStage) (answers : Nat → Demand) :
    Option ActiveMultistreamSinkStage := do
  let (inputs, pendingInputs) ← updatePending answers stage.pendingInputs 0 [] stage.inputs
  some { stage with inputs, pendingInputs }

def create : Option ActiveMultistreamSinkStage := do
  let (stage, index) ← allocateInput {}
  stage.releaseInput index

def empty : ActiveMultistreamSinkStage where
  inputs := [{ }]
  unallocatedInputs := {0}

theorem create_eq : create = some empty := by decide

inductive Event where
  | allocateInput
  | releaseInput (index : Nat)
  | updateDemand (index : Nat) (demand : Demand)
  | flushInput (index : Nat)
  | update (answers : Nat → Demand)
  | connect (index : Nat)
  | disconnect (index : Nat)
  | supply (index : Nat) (packet : Packet)

-- The sink names inputs that are allocated to it. Inputs are connected by the graph, and packets
-- come from their mates.
def step (stage : ActiveMultistreamSinkStage) : Event → Option ActiveMultistreamSinkStage
  | .allocateInput => stage.allocateInput.map Prod.fst
  | .releaseInput index => stage.releaseInput index
  | .updateDemand index demand =>
    if stage.Allocated index then stage.updateDemand index demand else none
  | .flushInput index => stage.flushInput index
  | .update answers => stage.update answers
  | .connect index => do
    let input ← stage.inputs[index]?
    if input.connected then none
    else some { stage with inputs := stage.inputs.set index { input with connected := true } }
  | .disconnect index => do
    let input ← stage.inputs[index]?
    some { stage with inputs := stage.inputs.set index { input with connected := false } }
  | .supply index packet => do
    let input ← stage.inputs[index]?
    if ¬ input.connected ∨ input.packetFromUpstream.isSome then none
    else
      some { stage with
        inputs := stage.inputs.set index { input with packetFromUpstream := some packet } }

def Wanted (stage : ActiveMultistreamSinkStage) (index : Nat) : Prop :=
  passes stage.inputs (·.demand ≠ .negative) index

instance (stage : ActiveMultistreamSinkStage) (index : Nat) : Decidable (stage.Wanted index) :=
  inferInstanceAs (Decidable (_ = _))

structure Accounted (stage : ActiveMultistreamSinkStage) : Prop where
  unallocated : ∀ index, index ∈ stage.unallocatedInputs ↔
    index < stage.inputs.length ∧ ¬ stage.Allocated index
  last : ∃ last, stage.inputs.length = last + 1 ∧ (last = 0 ∨ stage.Allocated last)

def AllocatesLowest (stage : ActiveMultistreamSinkStage) : Prop :=
  ∃ next index, stage.allocateInput = some (next, index) ∧ ¬ stage.Allocated index ∧
    ∀ other < index, stage.Allocated other

structure Tracked (stage : ActiveMultistreamSinkStage) : Prop where
  once : stage.pendingInputs.Nodup
  exactly : ∀ index, index ∈ stage.pendingInputs ↔ stage.Wanted index
  inside : ∀ index ∈ stage.pendingInputs, index < stage.inputs.length

structure Bookkeeping (stage : ActiveMultistreamSinkStage) : Prop where
  accounted : stage.Accounted
  lowest : stage.AllocatesLowest
  tracked : stage.Tracked

section Inputs

variable {inputs : List SinkStageInput} {test : SinkStageInput → Bool} {index : Nat}
  {input : SinkStageInput}

theorem passes_lt (passed : passes inputs test index) : index < inputs.length := by
  by_contra outside
  simp [passes, List.getElem?_eq_none (not_lt.mp outside)] at passed

theorem passes_set (present : inputs[index]? = some input) (changed : SinkStageInput)
    (other : Nat) : passes (inputs.set index changed) test other =
      if other = index then test changed else passes inputs test other := by
  obtain ⟨inside, -⟩ := List.getElem?_eq_some_iff.mp present
  by_cases same : other = index
  · simp [passes, same, inside]
  · simp [passes, same, List.getElem?_set_ne (Ne.symm same)]

theorem passes_set_same (present : inputs[index]? = some input) {changed : SinkStageInput}
    (same : test changed = test input) (other : Nat) :
    passes (inputs.set index changed) test other = passes inputs test other := by
  rw [passes_set present]
  split
  next here => simp [here, passes, present, same]
  next => rfl

theorem passes_append (changed : SinkStageInput) (other : Nat) :
    passes (inputs ++ [changed]) test other =
      if other = inputs.length then test changed else passes inputs test other := by
  by_cases same : other = inputs.length
  · simp [passes, same]
  · simp only [passes, same, if_false]
    rcases Nat.lt_or_gt_of_ne same with before | behind
    · rw [List.getElem?_append_left before]
    · rw [List.getElem?_eq_none, List.getElem?_eq_none]
      · omega
      · simp only [List.length_append, List.length_singleton]
        omega

theorem passes_take (count other : Nat) : passes (inputs.take count) test other =
    (decide (other < count) && passes inputs test other) := by
  by_cases before : other < count
  · simp [passes, before]
  · simp [passes, before]

end Inputs

variable {stage next : ActiveMultistreamSinkStage} {index : Nat} {input changed : SinkStageInput}

theorem allocated_of_set (present : stage.inputs[index]? = some input)
    (inputs : next.inputs = stage.inputs.set index changed)
    (same : changed.allocated = input.allocated) (other : Nat) :
    next.Allocated other ↔ stage.Allocated other := by
  rw [Allocated, Allocated, inputs, passes_set_same present same]

theorem wanted_of_set (present : stage.inputs[index]? = some input)
    (inputs : next.inputs = stage.inputs.set index changed)
    (same : changed.demand = input.demand) (other : Nat) :
    next.Wanted other ↔ stage.Wanted other := by
  rw [Wanted, Wanted, inputs, passes_set_same present (by rw [same])]

theorem Accounted.allocated_of_absent (accounted : stage.Accounted)
    (absent : index ∉ stage.unallocatedInputs) (inside : index < stage.inputs.length) :
    stage.Allocated index := by
  by_contra free
  exact absent ((accounted.unallocated index).mpr ⟨inside, free⟩)

theorem Accounted.congr (accounted : stage.Accounted)
    (allocated : ∀ index, next.Allocated index ↔ stage.Allocated index)
    (length : next.inputs.length = stage.inputs.length)
    (unallocated : next.unallocatedInputs = stage.unallocatedInputs) : next.Accounted := by
  constructor
  · intro index
    rw [unallocated, length, allocated]
    exact accounted.unallocated index
  · obtain ⟨last, isLast, held⟩ := accounted.last
    exact ⟨last, length.trans isLast, held.imp_right (allocated last).mpr⟩

theorem Tracked.congr (tracked : stage.Tracked)
    (wanted : ∀ index, next.Wanted index ↔ stage.Wanted index)
    (pending : next.pendingInputs = stage.pendingInputs) : next.Tracked := by
  have exactly (index : Nat) : index ∈ next.pendingInputs ↔ next.Wanted index := by
    rw [pending, wanted]
    exact tracked.exactly index
  exact ⟨pending ▸ tracked.once, exactly, fun index member => passes_lt ((exactly index).mp member)⟩

theorem Accounted.reallocated (accounted : stage.Accounted) {input : SinkStageInput}
    (present : stage.inputs[index]? = some input) :
    ({ stage with
      inputs := stage.inputs.set index { input with allocated := true }
      unallocatedInputs := stage.unallocatedInputs.erase index } :
        ActiveMultistreamSinkStage).Accounted := by
  constructor
  · intro other
    rw [Finset.mem_erase, accounted.unallocated, List.length_set, Allocated, Allocated,
      passes_set present]
    split
    next same => simp [same]
    next different => simp [different]
  · obtain ⟨last, isLast, held⟩ := accounted.last
    refine ⟨last, by rw [List.length_set, isLast], held.imp_right ?_⟩
    intro allocated
    rw [Allocated, passes_set present]
    split
    · rfl
    · exact allocated

theorem Accounted.extend (accounted : stage.Accounted)
    (none : stage.unallocatedInputs = ∅) :
    ({ stage with inputs := stage.inputs ++ [{ allocated := true }] } :
        ActiveMultistreamSinkStage).Accounted := by
  constructor
  · intro other
    rw [none, Allocated, passes_append, List.length_append, List.length_singleton]
    split
    next same => simp
    next different =>
      refine iff_of_false (Finset.notMem_empty other) ?_
      rintro ⟨inside, free⟩
      exact free (accounted.allocated_of_absent (by simp [none]) (by omega))
  · refine ⟨stage.inputs.length, by simp, .inr ?_⟩
    simp [Allocated, passes_append]

theorem Accounted.allocates (accounted : stage.Accounted) :
    ∃ next index, stage.allocateInput = some (next, index) ∧ ¬ stage.Allocated index ∧
      (∀ other < index, stage.Allocated other) ∧ next.Accounted ∧
      (∀ other, next.Wanted other ↔ stage.Wanted other) ∧
      next.pendingInputs = stage.pendingInputs := by
  by_cases released : stage.unallocatedInputs.Nonempty
  · obtain ⟨inside, free⟩ :=
      (accounted.unallocated _).mp (stage.unallocatedInputs.min'_mem released)
    obtain ⟨input, present⟩ : ∃ input,
        stage.inputs[stage.unallocatedInputs.min' released]? = some input :=
      ⟨_, List.getElem?_eq_getElem inside⟩
    have isFree : input.allocated = false := by simpa [Allocated, passes, present] using free
    refine ⟨_, _, ?_, free, ?_, accounted.reallocated present, wanted_of_set present rfl rfl, rfl⟩
    · rw [allocateInput, dif_pos released, reallocate, present]
      simp [isFree]
    · intro other before
      apply accounted.allocated_of_absent _ (before.trans inside)
      intro member
      exact absurd (stage.unallocatedInputs.min'_le other member) (not_le.mpr before)
  · have none := Finset.not_nonempty_iff_eq_empty.mp released
    refine ⟨_, stage.inputs.length, dif_neg released, ?_, ?_, accounted.extend none, ?_, rfl⟩
    · exact fun allocated => absurd (passes_lt allocated) (lt_irrefl _)
    · intro other inside
      exact accounted.allocated_of_absent (by simp [none]) inside
    · intro other
      rw [Wanted, Wanted, passes_append]
      split
      next same =>
        refine iff_of_false (by decide) fun wanted => ?_
        exact absurd (passes_lt wanted) (by omega)
      next => exact Iff.rfl

structure Popped (stage next : ActiveMultistreamSinkStage) (kept : Nat) : Prop where
  inputs : next.inputs = stage.inputs.take (kept + 1)
  unallocated : ∀ index,
    index ∈ next.unallocatedInputs ↔ index ∈ stage.unallocatedInputs ∧ index ≤ kept
  pending : next.pendingInputs = stage.pendingInputs
  last : kept = 0 ∨ stage.Allocated kept
  free : ∀ index, kept < index → ¬ stage.Allocated index

theorem popped_of_stay {last : Nat} (length : stage.inputs.length = last + 1)
    (inside : ∀ index ∈ stage.unallocatedInputs, index ≤ last)
    (stay : last = 0 ∨ stage.Allocated last) : Popped stage (popInputs (last + 1) stage) last := by
  have stays : popInputs (last + 1) stage = stage := by
    rw [popInputs, if_neg]
    rintro ⟨more, free⟩
    exact stay.elim (by omega) free
  rw [stays]
  refine ⟨(List.take_of_length_le length.le).symm, ?_, rfl, stay, ?_⟩
  · intro index
    exact (and_iff_left_of_imp (inside index)).symm
  · intro index behind allocated
    exact absurd (passes_lt allocated) (by omega)

theorem popInputs_popped (last : Nat) (stage : ActiveMultistreamSinkStage)
    (length : stage.inputs.length = last + 1)
    (inside : ∀ index ∈ stage.unallocatedInputs, index ≤ last) :
    ∃ kept ≤ last, Popped stage (popInputs (last + 1) stage) kept := by
  induction last generalizing stage with
  | zero => exact ⟨0, le_rfl, popped_of_stay length inside (.inl rfl)⟩
  | succ last ih =>
    by_cases allocated : stage.Allocated (last + 1)
    · exact ⟨last + 1, le_rfl, popped_of_stay length inside (.inr allocated)⟩
    · have pops : popInputs (last + 1 + 1) stage = popInputs (last + 1) { stage with
          inputs := stage.inputs.take (last + 1)
          unallocatedInputs := stage.unallocatedInputs.erase (last + 1) } := by
        rw [popInputs, if_pos ⟨by omega, allocated⟩]
      obtain ⟨kept, bound, popped⟩ := ih { stage with
          inputs := stage.inputs.take (last + 1)
          unallocatedInputs := stage.unallocatedInputs.erase (last + 1) }
        (by simp [length]) (by
          intro index member
          obtain ⟨different, present⟩ := Finset.mem_erase.mp member
          have := inside index present
          omega)
      have same (index : Nat) (before : index ≤ last) : Allocated { stage with
          inputs := stage.inputs.take (last + 1)
          unallocatedInputs := stage.unallocatedInputs.erase (last + 1) } index ↔
          stage.Allocated index := by
        rw [Allocated, passes_take, Allocated]
        simp [Nat.lt_succ_of_le before]
      rw [pops]
      refine ⟨kept, by omega, ?_, ?_, popped.pending, ?_, ?_⟩
      · rw [popped.inputs, List.take_take, Nat.min_eq_left (by omega)]
      · intro index
        rw [popped.unallocated, Finset.mem_erase]
        constructor
        · rintro ⟨⟨-, member⟩, before⟩
          exact ⟨member, before⟩
        · rintro ⟨member, before⟩
          exact ⟨⟨by omega, member⟩, before⟩
      · exact popped.last.imp_right (same kept bound).mp
      · intro index behind held
        rcases Nat.lt_trichotomy index (last + 1) with before | rfl | beyond
        · exact popped.free index behind ((same index (by omega)).mpr held)
        · exact allocated held
        · exact absurd (passes_lt held) (by omega)

structure Released (stage next : ActiveMultistreamSinkStage) (index : Nat) : Prop where
  accounted : next.Accounted
  left : ∀ other < stage.inputs.length, other < next.inputs.length ↔
    other = 0 ∨ ∃ held ≠ index, other ≤ held ∧ stage.Allocated held
  wanted : ∀ other, next.Wanted other ↔ stage.Wanted other ∧ other < next.inputs.length
  pending : next.pendingInputs = stage.pendingInputs

theorem free_allocated (present : stage.inputs[index]? = some input) (other : Nat) :
    (stage.free index input).Allocated other ↔ other ≠ index ∧ stage.Allocated other := by
  rw [Allocated, free, passes_set present]
  split
  next same => simp [same]
  next different => simp [different, Allocated]

theorem free_wanted (present : stage.inputs[index]? = some input) (other : Nat) :
    (stage.free index input).Wanted other ↔ stage.Wanted other := by
  apply wanted_of_set present
  · rfl
  · rfl

theorem free_length : (stage.free index input).inputs.length = stage.inputs.length :=
  List.length_set

theorem Accounted.releases_inside (accounted : stage.Accounted)
    (present : stage.inputs[index]? = some input)
    (followed : ¬ (index ≠ 0 ∧ index + 1 = stage.inputs.length)) :
    Released stage { stage.free index input with
      unallocatedInputs := insert index stage.unallocatedInputs } index := by
  obtain ⟨inside, -⟩ := List.getElem?_eq_some_iff.mp present
  obtain ⟨last, isLast, held⟩ := accounted.last
  have lastHeld : last = 0 ∨ last ≠ index ∧ stage.Allocated last := by
    rcases held with zero | allocated
    · exact .inl zero
    · by_cases same : last = index
      · exact .inl (by omega)
      · exact .inr ⟨same, allocated⟩
  refine ⟨⟨?_, last, free_length.trans isLast, ?_⟩, ?_, ?_, rfl⟩
  · intro other
    have frees := free_allocated present other
    simp only [Finset.mem_insert, accounted.unallocated, free_length]
    by_cases same : other = index
    · exact iff_of_true (.inl same) ⟨same ▸ inside, fun held => (frees.mp held).1 same⟩
    · rw [or_iff_right same]
      exact and_congr_right fun _ => not_congr ((and_iff_right same).symm.trans frees.symm)
  · exact lastHeld.imp_right (free_allocated present last).mpr
  · intro other before
    rw [free_length]
    refine iff_of_true before ?_
    rcases lastHeld with zero | ⟨different, allocated⟩
    · exact .inl (by omega)
    · exact .inr ⟨last, different, by omega, allocated⟩
  · intro other
    rw [free_length]
    constructor
    · intro wanted
      have before := (free_wanted present other).mp wanted
      exact ⟨before, passes_lt before⟩
    · exact fun wanted => (free_wanted present other).mpr wanted.1

theorem Accounted.releases_end (accounted : stage.Accounted)
    (present : stage.inputs[index]? = some input)
    (atEnd : index ≠ 0 ∧ index + 1 = stage.inputs.length) :
    Released stage ((stage.free index input).popInputs stage.inputs.length) index := by
  obtain ⟨more, isEnd⟩ := atEnd
  obtain ⟨kept, -, popped⟩ := popInputs_popped index (stage.free index input)
    (free_length.trans isEnd.symm) (by
      intro other member
      have := ((accounted.unallocated other).mp member).1
      omega)
  rw [← isEnd]
  generalize popInputs (index + 1) (stage.free index input) = next at popped ⊢
  have before : kept < index := by
    rcases popped.last with zero | allocated
    · omega
    · have other := (free_allocated present kept).mp allocated
      have inside := passes_lt other.2
      omega
  have length : next.inputs.length = kept + 1 := by
    rw [popped.inputs, List.length_take, free_length]
    omega
  have allocated (other : Nat) (inside : other ≤ kept) :
      next.Allocated other ↔ stage.Allocated other := by
    rw [Allocated, popped.inputs, passes_take]
    have frees := free_allocated present other
    simp only [Nat.lt_succ_of_le inside, decide_true, Bool.true_and]
    exact frees.trans (and_iff_right (by omega))
  refine ⟨⟨?_, kept, length, ?_⟩, ?_, ?_, popped.pending⟩
  · intro other
    rw [popped.unallocated, length]
    constructor
    · rintro ⟨member, inside⟩
      refine ⟨by omega, ?_⟩
      rw [allocated other inside]
      exact ((accounted.unallocated other).mp member).2
    · rintro ⟨inside, free⟩
      refine ⟨(accounted.unallocated other).mpr ⟨by omega, ?_⟩, by omega⟩
      rwa [allocated other (by omega)] at free
  · exact popped.last.imp_right fun held =>
      (allocated kept le_rfl).mpr ((free_allocated present kept).mp held).2
  · intro other inside
    rw [length]
    constructor
    · intro left
      rcases popped.last with zero | held
      · exact .inl (by omega)
      · obtain ⟨different, isHeld⟩ := (free_allocated present kept).mp held
        exact .inr ⟨kept, different, by omega, isHeld⟩
    · rintro (zero | ⟨held, different, behind, isHeld⟩)
      · omega
      · by_contra beyond
        exact popped.free held (by omega) ((free_allocated present held).mpr ⟨different, isHeld⟩)
  · intro other
    rw [length, Wanted, popped.inputs, passes_take, Bool.and_eq_true, decide_eq_true_eq, and_comm]
    exact and_congr_left fun _ => free_wanted present other

theorem Accounted.releases (accounted : stage.Accounted)
    (releases : stage.releaseInput index = some next) : Released stage next index := by
  simp only [releaseInput, Option.bind_eq_bind, Option.bind_eq_some_iff,
    Option.ite_none_left_eq_some] at releases
  obtain ⟨input, present, -, releases⟩ := releases
  split at releases
  next atEnd =>
    cases releases
    exact accounted.releases_end present atEnd
  next followed =>
    cases releases
    exact accounted.releases_inside present followed

def Outlived (stage : ActiveMultistreamSinkStage) (index : Nat) : Prop :=
  ∀ pending ∈ stage.pendingInputs,
    pending = 0 ∨ ∃ other ≠ index, pending ≤ other ∧ stage.Allocated other

instance (stage : ActiveMultistreamSinkStage) (index : Nat) : Decidable (stage.Outlived index) :=
  decidable_of_iff (∀ pending ∈ stage.pendingInputs, pending = 0 ∨
      ∃ other < stage.inputs.length, other ≠ index ∧ pending ≤ other ∧ stage.Allocated other) <| by
    refine forall₂_congr fun pending _ => or_congr_right ?_
    constructor
    · rintro ⟨other, -, different, behind, held⟩
      exact ⟨other, different, behind, held⟩
    · rintro ⟨other, different, behind, held⟩
      exact ⟨other, passes_lt held, different, behind, held⟩

theorem Released.tracked_iff (released : Released stage next index) (tracked : stage.Tracked) :
    next.Tracked ↔ stage.Outlived index := by
  constructor
  · intro after pending member
    have inside := after.inside pending (released.pending ▸ member)
    exact (released.left pending (tracked.inside pending member)).mp inside
  · intro outlived
    have inside (pending : Nat) (member : pending ∈ stage.pendingInputs) :
        pending < next.inputs.length :=
      (released.left pending (tracked.inside pending member)).mpr (outlived pending member)
    refine ⟨released.pending ▸ tracked.once, ?_, ?_⟩
    · intro other
      rw [released.pending, released.wanted, ← tracked.exactly]
      exact (and_iff_left_of_imp (inside other)).symm
    · intro other member
      exact inside other (released.pending ▸ member)

theorem updatePending_frame {answers : Nat → Demand} {pending kept left : List Nat} {count : Nat}
    {inputs updated : List SinkStageInput}
    (updates : updatePending answers pending count kept inputs = some (updated, left)) :
    updated.length = inputs.length ∧
      ∀ index, passes updated (·.allocated) index = passes inputs (·.allocated) index := by
  induction pending generalizing count kept inputs with
  | nil =>
    cases updates
    exact ⟨rfl, fun _ => rfl⟩
  | cons first rest ih =>
    simp only [updatePending, Option.bind_eq_bind, Option.bind_eq_some_iff,
      Option.ite_none_left_eq_some] at updates
    obtain ⟨input, present, -, updates⟩ := updates
    split at updates
    next =>
      obtain ⟨length, allocated⟩ := ih updates
      refine ⟨length.trans List.length_set, ?_⟩
      intro index
      exact (allocated index).trans (passes_set_same present (by rfl) index)
    next => exact ih updates

theorem updatePending_tracked {answers : Nat → Demand} {pending kept left : List Nat} {count : Nat}
    {inputs updated : List SinkStageInput}
    (updates : updatePending answers pending count kept inputs = some (updated, left))
    (once : (kept ++ pending).Nodup)
    (exactly : ∀ index, index ∈ kept ++ pending ↔ passes inputs (·.demand ≠ .negative) index) :
    left.Nodup ∧ ∀ index, index ∈ left ↔ passes updated (·.demand ≠ .negative) index := by
  induction pending generalizing count kept inputs with
  | nil =>
    cases updates
    rw [List.append_nil] at once exactly
    exact ⟨once, exactly⟩
  | cons first rest ih =>
    simp only [updatePending, Option.bind_eq_bind, Option.bind_eq_some_iff,
      Option.ite_none_left_eq_some] at updates
    obtain ⟨input, present, -, updates⟩ := updates
    have moved : kept ++ first :: rest = (kept ++ [first]) ++ rest := by simp
    split at updates
    next =>
      split at updates
      next refused =>
        obtain ⟨absent, rest_once⟩ := List.nodup_cons.mp (List.nodup_middle.mp once)
        apply ih updates rest_once
        intro index
        rw [passes_set present]
        split
        next same => simpa [same, refused] using absent
        next different =>
          rw [← exactly]
          simp [different]
      next wanted =>
        apply ih updates (moved ▸ once)
        intro index
        rw [passes_set present, ← moved]
        split
        next same => simp [same, wanted]
        next different => exact exactly index
    next => exact ih updates (moved ▸ once) (moved ▸ exactly)

theorem Accounted.update {answers : Nat → Demand} (accounted : stage.Accounted)
    (updates : stage.update answers = some next) : next.Accounted := by
  simp only [ActiveMultistreamSinkStage.update, Option.bind_eq_bind, Option.bind_eq_some_iff,
    Option.some.injEq] at updates
  obtain ⟨⟨inputs, left⟩, done, rfl⟩ := updates
  obtain ⟨length, allocated⟩ := updatePending_frame done
  refine accounted.congr (fun index => ?_) length rfl
  rw [Allocated, allocated, Allocated]

theorem Tracked.update {answers : Nat → Demand} (tracked : stage.Tracked)
    (updates : stage.update answers = some next) : next.Tracked := by
  simp only [ActiveMultistreamSinkStage.update, Option.bind_eq_bind, Option.bind_eq_some_iff,
    Option.some.injEq] at updates
  obtain ⟨⟨inputs, left⟩, done, rfl⟩ := updates
  obtain ⟨once, exactly⟩ := updatePending_tracked done tracked.once tracked.exactly
  exact ⟨once, exactly, fun index member => passes_lt ((exactly index).mp member)⟩

theorem tracked_of_updateDemand {demand : Demand} (tracked : stage.Tracked)
    (updates : stage.updateDemand index demand = some next) :
    next.Tracked ↔ index ∉ stage.pendingInputs := by
  simp only [updateDemand, Option.bind_eq_bind, Option.bind_eq_some_iff,
    Option.ite_none_left_eq_some, Option.some.injEq] at updates
  obtain ⟨input, present, wanted, rfl⟩ := updates
  constructor
  · intro after member
    exact (List.nodup_append.mp after.once).2.2 index member index List.mem_cons_self rfl
  · intro absent
    have exactly (other : Nat) : other ∈ stage.pendingInputs ++ [index] ↔
        passes (stage.inputs.set index { input with demand }) (·.demand ≠ .negative) other := by
      rw [passes_set present, List.mem_append, List.mem_singleton, tracked.exactly]
      split
      next same => simp [same, wanted]
      next different => simp [different, Wanted]
    refine ⟨?_, exactly, fun other member => passes_lt ((exactly other).mp member)⟩
    rw [List.nodup_append]
    exact ⟨tracked.once, List.nodup_singleton index, by
      rintro other member last isLast rfl
      exact absent (List.mem_singleton.mp isLast ▸ member)⟩

theorem Tracked.flushInput (tracked : stage.Tracked)
    (flushes : stage.flushInput index = some next) : next.Tracked := by
  simp only [ActiveMultistreamSinkStage.flushInput, Option.bind_eq_bind, Option.bind_eq_some_iff,
    Option.some.injEq] at flushes
  obtain ⟨input, present, rfl⟩ := flushes
  have exactly (other : Nat) : other ∈ stage.pendingInputs.filter (· ≠ index) ↔
      passes (stage.inputs.set index { input with
        demand := .negative
        packetFromUpstream := none }) (·.demand ≠ .negative) other := by
    rw [passes_set present, List.mem_filter, tracked.exactly]
    split
    next same => simp [same]
    next different => simp [different, Wanted]
  exact ⟨tracked.once.filter _, exactly, fun other member => passes_lt ((exactly other).mp member)⟩

-- The sink asks again only for packets from an input that no longer waits for one, and releases
-- inputs only if none that waits for a packet is popped.
def Disciplined (stage : ActiveMultistreamSinkStage) : Event → Prop
  | .releaseInput index => stage.Outlived index
  | .updateDemand index _ => index ∉ stage.pendingInputs
  | .allocateInput | .flushInput _ | .update _ | .connect _ | .disconnect _ | .supply _ _ => True

instance (stage : ActiveMultistreamSinkStage) (event : Event) :
    Decidable (stage.Disciplined event) :=
  match event with
  | .releaseInput index => inferInstanceAs (Decidable (stage.Outlived index))
  | .updateDemand index _ => inferInstanceAs (Decidable (index ∉ stage.pendingInputs))
  | .allocateInput | .flushInput _ | .update _ | .connect _ | .disconnect _ | .supply _ _ =>
    .isTrue trivial

theorem Accounted.set (accounted : stage.Accounted) (present : stage.inputs[index]? = some input)
    (inputs : next.inputs = stage.inputs.set index changed)
    (same : changed.allocated = input.allocated)
    (unallocated : next.unallocatedInputs = stage.unallocatedInputs) : next.Accounted := by
  apply accounted.congr (allocated_of_set present inputs same) _ unallocated
  rw [inputs, List.length_set]

def Event.ByGraph : Event → Prop
  | .connect _ | .disconnect _ | .supply _ _ => True
  | .allocateInput | .releaseInput _ | .updateDemand _ _ | .flushInput _ | .update _ => False

theorem step_byGraph {event : Event} (taken : stage.step event = some next)
    (byGraph : event.ByGraph) :
    ∃ index input changed, stage.inputs[index]? = some input ∧
      next = { stage with inputs := stage.inputs.set index changed } ∧
      changed.allocated = input.allocated ∧ changed.demand = input.demand := by
  cases event with
  | connect index =>
    simp only [step, Option.bind_eq_bind, Option.bind_eq_some_iff, Option.ite_none_left_eq_some,
      Option.some.injEq] at taken
    obtain ⟨input, present, -, isNext⟩ := taken
    exact ⟨index, input, _, present, isNext.symm, rfl, rfl⟩
  | disconnect index =>
    simp only [step, Option.bind_eq_bind, Option.bind_eq_some_iff, Option.some.injEq] at taken
    obtain ⟨input, present, isNext⟩ := taken
    exact ⟨index, input, _, present, isNext.symm, rfl, rfl⟩
  | supply index packet =>
    simp only [step, Option.bind_eq_bind, Option.bind_eq_some_iff, Option.ite_none_left_eq_some,
      Option.some.injEq] at taken
    obtain ⟨input, present, -, isNext⟩ := taken
    exact ⟨index, input, _, present, isNext.symm, rfl, rfl⟩
  | allocateInput | releaseInput _ | updateDemand _ _ | flushInput _ | update _ =>
    exact byGraph.elim

theorem Accounted.step {event : Event} (accounted : stage.Accounted)
    (taken : stage.step event = some next) : next.Accounted := by
  cases event with
  | allocateInput =>
    obtain ⟨after, index, allocates, -, -, kept, -⟩ := accounted.allocates
    simp only [ActiveMultistreamSinkStage.step, allocates, Option.map_some,
      Option.some.injEq] at taken
    exact taken ▸ kept
  | releaseInput index => exact (accounted.releases taken).accounted
  | updateDemand index demand =>
    simp only [ActiveMultistreamSinkStage.step, updateDemand, Option.ite_none_right_eq_some,
      Option.bind_eq_bind, Option.bind_eq_some_iff, Option.ite_none_left_eq_some,
      Option.some.injEq] at taken
    obtain ⟨-, input, present, -, rfl⟩ := taken
    exact accounted.set present rfl rfl rfl
  | flushInput index =>
    simp only [ActiveMultistreamSinkStage.step, flushInput, Option.bind_eq_bind,
      Option.bind_eq_some_iff, Option.some.injEq] at taken
    obtain ⟨input, present, rfl⟩ := taken
    exact accounted.set present rfl rfl rfl
  | update answers => exact accounted.update taken
  | connect _ | disconnect _ | supply _ _ =>
    obtain ⟨index, input, changed, present, rfl, same, -⟩ := step_byGraph taken trivial
    exact accounted.set present rfl same rfl

theorem step_tracked_iff {event : Event} (accounted : stage.Accounted) (tracked : stage.Tracked)
    (taken : stage.step event = some next) : next.Tracked ↔ stage.Disciplined event := by
  cases event with
  | allocateInput =>
    obtain ⟨after, index, allocates, -, -, -, wanted, pending⟩ := accounted.allocates
    simp only [step, allocates, Option.map_some, Option.some.injEq] at taken
    exact iff_of_true (taken ▸ tracked.congr wanted pending) trivial
  | releaseInput index => exact (accounted.releases taken).tracked_iff tracked
  | updateDemand index demand =>
    simp only [step, Option.ite_none_right_eq_some] at taken
    exact tracked_of_updateDemand tracked taken.2
  | flushInput index => exact iff_of_true (tracked.flushInput taken) trivial
  | update answers => exact iff_of_true (tracked.update taken) trivial
  | connect _ | disconnect _ | supply _ _ =>
    obtain ⟨index, input, changed, present, rfl, -, same⟩ := step_byGraph taken trivial
    exact iff_of_true (tracked.congr (wanted_of_set present rfl same) rfl) trivial

def KeepsBooks (stage : ActiveMultistreamSinkStage) (event : Event) : Prop :=
  ∀ next, stage.step event = some next → next.Bookkeeping

theorem Accounted.bookkeeping (accounted : stage.Accounted) (tracked : stage.Tracked) :
    stage.Bookkeeping := by
  obtain ⟨next, index, allocates, free, lower, -⟩ := accounted.allocates
  exact ⟨accounted, ⟨next, index, allocates, free, lower⟩, tracked⟩

theorem Bookkeeping.step {event : Event} (books : stage.Bookkeeping)
    (disciplined : stage.Disciplined event) (taken : stage.step event = some next) :
    next.Bookkeeping :=
  (books.accounted.step taken).bookkeeping
    ((step_tracked_iff books.accounted books.tracked taken).mpr disciplined)

theorem empty_bookkeeping : empty.Bookkeeping := by
  apply Accounted.bookkeeping
  · refine ⟨?_, 0, rfl, .inl rfl⟩
    intro index
    rcases Nat.eq_zero_or_pos index with rfl | behind
    · decide
    · simp [empty, Nat.pos_iff_ne_zero.mp behind]
  · refine ⟨List.nodup_nil, ?_, nofun⟩
    intro index
    rcases Nat.eq_zero_or_pos index with rfl | behind
    · decide
    · simp [empty, Wanted, passes, Nat.pos_iff_ne_zero.mp behind]

-- The stage keeps track of its inputs as long as the sink asks for no packet twice and releases
-- no input that waits for one.
theorem books_kept_iff (events : List Event) (final : ActiveMultistreamSinkStage)
    (reached : Runs.run step empty events = some final) :
    create = some empty ∧ empty.Bookkeeping ∧
      (Runs.Meets step KeepsBooks empty events ↔ Runs.Meets step Disciplined empty events) := by
  refine ⟨create_eq, empty_bookkeeping, ?_⟩
  refine Runs.meets_congr_of_run step KeepsBooks Disciplined Bookkeeping ?_ ?_ empty final events
    empty_bookkeeping reached
  · intro stage event next books taken
    constructor
    · intro keeps
      exact (step_tracked_iff books.accounted books.tracked taken).mp (keeps next taken).tracked
    · intro disciplined other also
      exact books.step disciplined also
  · intro stage event next books disciplined taken
    exact books.step disciplined taken

def secondReleased : List Event :=
  [.allocateInput, .allocateInput, .connect 1, .updateDemand 1 .positive,
    .supply 1 ⟨0, false, [1]⟩, .update fun _ => .negative, .disconnect 1, .releaseInput 1]

theorem second_released_books_kept : ∃ final, Runs.run step empty secondReleased = some final ∧
    final.inputs.length = 1 ∧ Runs.Meets step KeepsBooks empty secondReleased :=
  ⟨_, rfl, rfl, (books_kept_iff secondReleased _ rfl).2.2.mpr (by decide +kernel)⟩

theorem stale_index_pending :
    (∃ final, Runs.run step empty
        [.allocateInput, .allocateInput, .updateDemand 1 .positive, .releaseInput 1] = some final ∧
      final.pendingInputs = [1] ∧ final.inputs.length = 1 ∧ ¬ final.Bookkeeping ∧
      ∀ answers, final.step (.update answers) = none) ∧
    ∃ final, Runs.run step empty
        [.allocateInput, .updateDemand 0 .positive, .updateDemand 0 .positive] = some final ∧
      final.pendingInputs = [0, 0] ∧ ¬ final.Bookkeeping := by
  refine ⟨⟨_, rfl, rfl, rfl, ?_, fun _ => rfl⟩, _, rfl, rfl, ?_⟩
  · intro books
    exact absurd (books.tracked.inside 1 (by decide)) (by decide)
  · intro books
    exact absurd books.tracked.once (by decide)

end ActiveMultistreamSinkStage

end MojoMedia.Framework
