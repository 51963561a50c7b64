import MojoMedia.Shared.LinkedList
import MojoMedia.Shared.Runs
import Mathlib.Algebra.Group.Nat.Defs

set_option autoImplicit false

-- Every operation is partial: it has no value when the source would follow a null pointer, or not
-- return. Sizes and offsets never exceed `size_`, so they are plain naturals.
namespace MojoMedia.FifoAllocator

open LinkedList

structure Region where
  allocated : Bool := false
  size : Nat := 0
  offset : Nat := 0
  deriving Repr, DecidableEq

namespace Region

def mark (region : Region) (allocated : Bool) : Region := { region with allocated }

def cut (region : Region) (amount : Nat) : Region :=
  { region with size := region.size - amount, offset := region.offset + amount }

def absorbNext (region next : Region) : Region := { region with size := region.size + next.size }

def absorbPrev (region prev : Region) : Region :=
  { region with offset := prev.offset, size := region.size + prev.size }

end Region

def kNullOffset : Nat := 2 ^ 64 - 1

structure Allocator where
  size : Nat
  front : Option Nat := none
  back : Option Nat := none
  free : Option Nat := none
  active : Option Nat := none
  region : Nat → Region := fun _ => {}
  prev : Nat → Option Nat := fun _ => none
  next : Nat → Option Nat := fun _ => none
  -- Regions that `new` has returned so far. A deleted region is not returned again.
  made : Nat := 0

namespace Allocator

def removeForwards (self : Allocator) (region : Nat) : Option Allocator :=
  if self.front = some region then some { self with front := self.next region }
  else (self.prev region).map fun prev =>
    { self with next := Function.update self.next prev (self.next region) }

def removeBackwards (self : Allocator) (region : Nat) : Option Allocator :=
  if self.back = some region then some { self with back := self.prev region }
  else (self.next region).map fun next =>
    { self with prev := Function.update self.prev next (self.prev region) }

def remove (self : Allocator) (region : Nat) : Option Allocator :=
  (self.removeForwards region).bind (·.removeBackwards region)

def insertBefore (self : Allocator) (region beforeThis : Nat) : Option Allocator :=
  let self := { self with prev := Function.update self.prev region (self.prev beforeThis) }
  let self := { self with prev := Function.update self.prev beforeThis (some region) }
  let self := { self with next := Function.update self.next region (some beforeThis) }
  if self.front = some beforeThis then some { self with front := some region }
  else (self.prev region).map fun prev =>
    { self with next := Function.update self.next prev (some region) }

def getFree (self : Allocator) (allocated : Bool) (size offset : Nat) : Nat × Allocator :=
  match self.free with
  | none =>
    (self.made,
      { self with
        made := self.made + 1
        prev := Function.update self.prev self.made none
        next := Function.update self.next self.made none
        region := Function.update self.region self.made { allocated, size, offset } })
  | some result =>
    (result,
      { self with
        free := self.next result
        region := Function.update self.region result { allocated, size, offset } })

def putFree (self : Allocator) (region : Nat) : Allocator :=
  { self with next := Function.update self.next region self.free, free := some region }

def fuel (self : Allocator) : Nat := self.made + 1

def reset (self : Allocator) (size : Nat) : Allocator :=
  let (region, self) := ({ self with size, free := none }).getFree false size 0
  { self with
    front := some region
    back := some region
    active := some region
    prev := Function.update self.prev region none
    next := Function.update self.next region none }

def dropPlaceholder (self : Allocator) (active : Nat) : Option Allocator :=
  if (self.region active).size = 0 then (self.remove active).map (·.putFree active)
  else some self

def isLarge (self : Allocator) (size region : Nat) : Bool :=
  !(self.region region).allocated && decide (size ≤ (self.region region).size)

def advanceActiveBetween (self : Allocator) (size : Nat) (first last : Option Nat) :
    Option (Bool × Allocator) :=
  match find self.next (self.isLarge size) last self.fuel first with
  | none => none
  | some none => some (false, self)
  | some (some region) => do
    let active ← self.active
    let self ← self.dropPlaceholder active
    some (true, { self with active := some region })

def advanceActive (self : Allocator) (size : Nat) : Option (Bool × Allocator) := do
  let active ← self.active
  match ← self.advanceActiveBetween size (self.next active) none with
  | (true, self) => some (true, self)
  | (false, self) => self.advanceActiveBetween size self.front self.active

def makeActivePlaceholder (self : Allocator) : Option Allocator := do
  let active ← self.active
  let offset :=
    if self.active = self.back then 0
    else (self.region active).offset + (self.region active).size
  let (newActive, self) := self.getFree false 0 offset
  let beforeThis := if self.active = self.back then self.front else self.next active
  let self ← self.insertBefore newActive (← beforeThis)
  some { self with active := some newActive }

def moveActive (self : Allocator) : Option Allocator := do
  let front ← self.front
  if self.active = self.back ∧ (self.region front).allocated = false then
    some { self with active := self.front }
  else self.makeActivePlaceholder

def allocateActive (self : Allocator) (size : Nat) : Option (Nat × Allocator) := do
  let active ← self.active
  let region := self.region active
  if region.size = size then
    let self ←
      ({ self with region := Function.update self.region active (region.mark true) }).moveActive
    some (region.offset, self)
  else
    let (allocated, self) := self.getFree true size region.offset
    let rest := (self.region active).cut size
    let self := { self with region := Function.update self.region active rest }
    let self ← self.insertBefore allocated active
    some ((self.region allocated).offset, self)

-- The first component is the offset of the new region.
def allocateRegion (self : Allocator) (size : Nat) : Option (Nat × Allocator) := do
  let active ← self.active
  if (self.region active).size < size then
    match ← self.advanceActive size with
    | (false, self) => some (kNullOffset, self)
    | (true, self) => self.allocateActive size
  else self.allocateActive size

def isUnallocated (self : Allocator) (region : Nat) : Bool := !(self.region region).allocated

-- The first component is the region the released one is now part of.
def coalescePrev (self : Allocator) (region : Nat) : Option (Nat × Allocator) :=
  match (self.prev region).filter self.isUnallocated with
  | none => some (region, self)
  | some prev =>
    let merged := (self.region prev).absorbNext (self.region region)
    let self := { self with region := Function.update self.region prev merged }
    ((self.remove region).map (·.putFree region)).map fun self => (prev, self)

def coalesceNext (self : Allocator) (region : Nat) : Option Allocator :=
  match (self.next region).filter self.isUnallocated with
  | none => some self
  | some next =>
    let merged := (self.region next).absorbPrev (self.region region)
    let self := { self with region := Function.update self.region next merged }
    let self :=
      { self with active := if self.active = some region then some next else self.active }
    (self.remove region).map (·.putFree region)

-- What is done with the region that is found. Its size is only looked at by assertions.
def releaseFound (self : Allocator) (region : Nat) : Option Allocator := do
  let freed := (self.region region).mark false
  let self := { self with region := Function.update self.region region freed }
  let (region, self) ← self.coalescePrev region
  self.coalesceNext region

def release (self : Allocator) (_size offset : Nat) (first last : Option Nat) :
    Option (Bool × Allocator) :=
  match find self.next (fun region => (self.region region).offset == offset) last self.fuel
    first with
  | none => none
  | some none => some (false, self)
  | some (some region) => (self.releaseFound region).map fun self => (true, self)

def releaseRegion (self : Allocator) (size offset : Nat) : Option Allocator := do
  let active ← self.active
  match ← self.release size offset (self.next active) none with
  | (true, self) => some self
  | (false, self) => (self.release size offset self.front self.active).map Prod.snd

end Allocator

structure Client where
  allocator : Allocator
  held : List (Nat × Nat) := []

inductive Event where
  | reset (size : Nat)
  | allocateRegion (size : Nat)
  | releaseRegion (size offset : Nat)
  deriving Repr, DecidableEq

namespace Client

def start (size : Nat) : Client := { allocator := ({ size } : Allocator).reset size }

def step (client : Client) : Event → Option Client
  | .reset size => some { allocator := client.allocator.reset size }
  | .allocateRegion size => do
    let (offset, allocator) ← client.allocator.allocateRegion size
    if offset = kNullOffset then some { client with allocator }
    else some { allocator, held := (size, offset) :: client.held }
  | .releaseRegion size offset => do
    let allocator ← client.allocator.releaseRegion size offset
    some { allocator, held := client.held.erase (size, offset) }

def Permitted (client : Client) : Event → Prop
  | .reset size => size < 2 ^ 64
  | .allocateRegion size => 0 < size ∧ size < 2 ^ 64
  | .releaseRegion size offset => (size, offset) ∈ client.held

instance (client : Client) (event : Event) : Decidable (client.Permitted event) := by
  cases event <;> simp only [Permitted] <;> infer_instance

end Client

end MojoMedia.FifoAllocator
