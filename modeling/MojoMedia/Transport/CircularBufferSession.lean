import MojoMedia.Shared.Runs
import MojoMedia.Transport.CircularBuffer

set_option autoImplicit false

-- The producer sends packets in creation order and cancels them in reverse creation order. The
-- consumer answers packets in the order they were sent, and acknowledges flushes at any later
-- time.
namespace MojoMedia.CircularBuffer

structure Session where
  adapter : Adapter
  created : List MappedPacket := []
  outstanding : List (Nat × MediaPacket) := []
  flushes : Nat := 0
  deriving Repr, DecidableEq

inductive Event where
  | create (size : Nat) (noWrap : Bool)
  | send (cbk : Option Nat)
  | cancel
  | flush
  | answer (result : SendResult)
  | acknowledgeFlush
  | setWatermarks (hiWaterMark loWaterMark : Nat)
  | setSignalCallback (cbk : Option Nat)
  | signalTask
  deriving Repr, DecidableEq

def sends : List PipeMessage → List (Nat × MediaPacket)
  | [] => []
  | .sendPacket seqNum packet :: rest => (seqNum, packet) :: sends rest
  | _ :: rest => sends rest

namespace Session

def step (session : Session) : Event → Option Session
  | .create size noWrap =>
    let outcome := session.adapter.createMediaPacket size noWrap {}
    if outcome.result = .ok then
      some { session with
        adapter := outcome.adapter
        created := session.created ++ [outcome.packet] }
    else some { session with adapter := outcome.adapter }
  | .send cbk =>
    match session.created with
    | [] => none
    | packet :: rest =>
      let outcome := session.adapter.sendMediaPacket packet cbk
      some { session with
        adapter := outcome.adapter
        created := rest
        outstanding := session.outstanding ++ sends outcome.messages }
  | .cancel =>
    match session.created.getLast? with
    | none => none
    | some packet =>
      some { session with
        adapter := (session.adapter.cancelMediaPacket packet).adapter
        created := session.created.dropLast }
  | .flush =>
    let outcome := session.adapter.flush
    some { session with
      adapter := outcome.adapter
      flushes := session.flushes + outcome.messages.length }
  | .answer result =>
    -- Closing the pipe drops the answers that are still on their way.
    match session.adapter.pipeBound, session.outstanding with
    | true, (seqNum, _) :: rest =>
      some { session with
        adapter := (session.adapter.handleSendPacket seqNum result).1
        outstanding := rest }
    | _, _ => none
  | .acknowledgeFlush =>
    if session.adapter.pipeBound ∧ 0 < session.flushes then
      session.adapter.handleFlush.map fun adapter =>
        { session with adapter, flushes := session.flushes - 1 }
    else none
  | .setWatermarks hiWaterMark loWaterMark =>
    some { session with adapter := session.adapter.setWatermarks hiWaterMark loWaterMark }
  | .setSignalCallback cbk =>
    some { session with adapter := session.adapter.setSignalCallback cbk }
  | .signalTask =>
    if 0 < session.adapter.postedTasks then
      let adapter :=
        { session.adapter with postedTasks := session.adapter.postedTasks - 1 }
      some { session with adapter := adapter.handleSignalCallback.1 }
    else none

-- `Init` has succeeded. The source initializes neither the pointers nor the two counters.
def start (bufferSize rd wr flushGeneration seqNumGen : Nat) : Session :=
  { adapter :=
      { bufferHandle := true
        buffer := true
        bufferSize
        rd
        wr
        flushGeneration
        seqNumGen } }

-- Packets that were created and neither cancelled nor answered, oldest first.
def live (session : Session) : List MediaPacket :=
  session.outstanding.map Prod.snd ++ session.created.filterMap MappedPacket.packet

end Session

end MojoMedia.CircularBuffer
