import MojoMedia.Transport.FifoAllocator

set_option autoImplicit false

-- A pointer into the shared buffer of a payload is an offset from its base.
namespace MojoMedia

inductive MediaState where
  | fault
  | unprepared
  | paused
  | playing
  | ended
  deriving Repr, DecidableEq

def MediaState.isPrepared : MediaState → Bool
  | .fault | .unprepared => false
  | .paused | .playing | .ended => true

-- A packet of the framework. The payload is `none` for a null pointer.
structure SharedPacket where
  pts : Int
  endOfStream : Bool := false
  size : Nat := 0
  payload : Option Nat := none
  deriving Repr, DecidableEq

def SharedPacket.createEndOfStream (pts : Int) : SharedPacket := { pts, endOfStream := true }

namespace Mojo

structure MediaPacketRegion where
  offset : Nat
  length : Nat
  deriving Repr, DecidableEq

structure MediaPacket where
  pts : Int
  endOfStream : Bool
  payload : Option MediaPacketRegion
  deriving Repr, DecidableEq

end Mojo

def ptrFromOffset (offset : Nat) : Option Nat :=
  if offset = FifoAllocator.kNullOffset then none else some offset

def offsetFromPtr (ptr : Option Nat) : Nat := ptr.getD FifoAllocator.kNullOffset

end MojoMedia
