import MojoMedia.Shared.Extents
import MojoMedia.Shared.MachineInt

set_option autoImplicit false

-- A function that would use an iterator that points to no entry has no result.
namespace MojoMedia

open OrderedMap Extents MachineInt

structure SparseByteBuffer where
  size : Nat
  holes : OrderedMap Nat
  regions : OrderedMap (List UInt8)

namespace SparseByteBuffer

abbrev Hole := Iterator

abbrev Region := Iterator

def initialized (size : Nat) : SparseByteBuffer :=
  { size, holes := empty.assign 0 size, regions := empty }

def searchRegion (buffer : SparseByteBuffer) (position : Nat) : Option Region :=
  search buffer.regions position fun key bytes => key + bytes.length ≤ position

def findRegionContaining (buffer : SparseByteBuffer) (position : Nat) (hint : Region) :
    Option Region :=
  match hint with
  | none => buffer.searchRegion position
  | some key => do
    let bytes ← buffer.regions.get? key
    if key ≤ position then
      if key + bytes.length ≤ position then
        -- The hint is too close to the front. See if the next region is correct.
        match buffer.regions.next key with
        | none => buffer.searchRegion position
        | some following => do
          let bytes ← buffer.regions.get? following
          if following ≤ position ∧ position < following + bytes.length then
            some (some following)
          else buffer.searchRegion position
      else some (some key)
    else buffer.searchRegion position

def findHoleContaining (buffer : SparseByteBuffer) (position : Nat) : Option Hole :=
  search buffer.holes position fun key size => key + size < position

def splitHole (buffer : SparseByteBuffer) (key size position : Nat) : SparseByteBuffer :=
  let frontSize := subU64 position key
  let backSize := subU64 size frontSize
  { buffer with holes := (buffer.holes.assign key frontSize).insert position backSize }

def chooseHole (buffer : SparseByteBuffer) (position : Nat) (hint : Hole) : Option Nat := do
  let key ← hint.or buffer.holes.first
  let size ← buffer.holes.get? key
  if key ≠ position ∧ (position < key ∨ key + size ≤ position) then
    (buffer.findHoleContaining position).join
  else some key

def findOrCreateHole (buffer : SparseByteBuffer) (position : Nat) (hint : Hole) :
    Option (Hole × SparseByteBuffer) := do
  let key ← buffer.chooseHole position hint
  let size ← buffer.holes.get? key
  if key ≠ position then some (some position, buffer.splitHole key size position)
  else some (some key, buffer)

def removeFilled : Nat → OrderedMap Nat → Hole → Nat → Option (Hole × OrderedMap Nat)
  | _, holes, iterator, 0 => some (iterator, holes)
  | 0, _, _, _ + 1 => none
  | fuel + 1, holes, iterator, bufferSize => do
    let key ← iterator
    let size ← holes.get? key
    -- A partly filled hole leaves a hole for the remainder.
    let rest := if bufferSize < size then 0 else bufferSize - size
    let holes :=
      if bufferSize < size then holes.insert (key + bufferSize) (size - bufferSize) else holes
    let following := holes.next key
    let holes := holes.erase key
    removeFilled fuel holes (following.or holes.first) rest

def fill (buffer : SparseByteBuffer) (hole : Hole) (bytes : List UInt8) :
    Option (Hole × SparseByteBuffer) := do
  let position ← hole
  let _ ← buffer.holes.get? position
  let (next, holes) ← removeFilled bytes.length buffer.holes hole bytes.length
  some (next, { buffer with holes, regions := buffer.regions.insert position bytes })

end SparseByteBuffer

end MojoMedia
