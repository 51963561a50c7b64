import MojoMedia.Audio.PacketTimes
import MojoMedia.Transport.CircularBufferSession

set_option autoImplicit false

-- The client sends packets over a message pipe, and replies come back over the same pipe.
namespace MojoMedia

open CircularBuffer

def CircularBuffer.MediaPacketRegion.encode (region : CircularBuffer.MediaPacketRegion) :
    Audio.MediaPacketRegion :=
  { offset := .ofNat region.offset, length := .ofNat region.length }

def CircularBuffer.MediaPacket.encode (packet : CircularBuffer.MediaPacket) (pts : Int64) :
    Audio.MediaPacket :=
  { pts
    payload := some packet.payload.encode
    extraPayload := some (packet.extraPayload.map fun region => some region.encode) }

namespace AudioConnection

inductive Message where
  | sendPacket (seqNum : Nat) (packet : CircularBuffer.MediaPacket) (pts : Int64)
  | flush
  deriving Repr, DecidableEq

inductive Reply where
  | sendPacket (seqNum : Nat) (result : CircularBuffer.SendResult)
  | flush
  deriving Repr, DecidableEq

structure HeldPacket where
  seqNum : Nat
  packet : CircularBuffer.MediaPacket
  ref : Audio.AudioPacketRef
  deriving Repr, DecidableEq

inductive Event where
  | create (size : Nat) (noWrap : Bool)
  | send (pts : Int64) (cbk : Option Nat)
  | cancel
  | flush
  | setWatermarks (hiWaterMark loWaterMark : Nat)
  | setSignalCallback (cbk : Option Nat)
  | signalTask
  | deliver
  | release (result : CircularBuffer.SendResult)
  | reply
  | connectionError
  deriving Repr, DecidableEq

end AudioConnection

structure AudioConnection where
  client : Session
  messages : List AudioConnection.Message := []
  pipe : Audio.AudioPipe
  held : List AudioConnection.HeldPacket := []
  replies : List AudioConnection.Reply := []
  deriving Repr, DecidableEq

namespace AudioConnection

def start (bufferSize rd wr flushGeneration seqNumGen : Nat) : AudioConnection :=
  { client := .start bufferSize rd wr flushGeneration seqNumGen
    pipe := { buffer := some (.ofNat bufferSize) } }

def alone (connection : AudioConnection) (event : CircularBuffer.Event) :
    Option AudioConnection :=
  (connection.client.step event).map fun client => { connection with client }

def send (connection : AudioConnection) (pts : Int64) (cbk : Option Nat) :
    Option AudioConnection :=
  match connection.client.created with
  | [] => none
  | packet :: _ =>
    let sent := sends (connection.client.adapter.sendMediaPacket packet cbk).messages
    (connection.client.step (.send cbk)).map fun client =>
      { connection with
        client
        messages := connection.messages ++
          sent.map fun message => .sendPacket message.1 message.2 pts }

def flush (connection : AudioConnection) : Option AudioConnection :=
  let sent := connection.client.adapter.flush.messages
  (connection.client.step .flush).map fun client =>
    { connection with client, messages := connection.messages ++ sent.map fun _ => .flush }

def receive (owner : Audio.PipeOwner) (connection : AudioConnection) :
    Message → AudioConnection
  | .sendPacket seqNum packet pts =>
    match connection.pipe.sendPacket owner (packet.encode pts) with
    | (.ok ref, pipe) =>
      { connection with pipe, held := connection.held ++ [{ seqNum, packet, ref }] }
    | (.error _, pipe) => { connection with pipe, messages := [] }
  | .flush =>
    { connection with
      pipe := connection.pipe.onFlushRequested
      replies := connection.replies ++ [.flush] }

def deliver (owner : Audio.PipeOwner) (connection : AudioConnection) : Option AudioConnection :=
  match connection.messages with
  | [] => none
  | message :: rest =>
    if connection.pipe.bound then
      some (receive owner { connection with messages := rest } message)
    else none

def release (connection : AudioConnection) (result : CircularBuffer.SendResult) :
    Option AudioConnection :=
  match connection.held with
  | [] => none
  | packet :: rest =>
    some
      { connection with
        held := rest
        replies :=
          if connection.pipe.bound then connection.replies ++ [.sendPacket packet.seqNum result]
          else connection.replies }

def reply (connection : AudioConnection) : Option AudioConnection :=
  match connection.client.adapter.pipeBound, connection.replies with
  | true, .sendPacket seqNum result :: rest =>
    some
      { connection with
        client :=
          { connection.client with
            adapter := (connection.client.adapter.handleSendPacket seqNum result).1
            outstanding := connection.client.outstanding.eraseP fun sent => sent.1 = seqNum }
        replies := rest }
  | true, .flush :: rest =>
    connection.client.adapter.handleFlush.map fun adapter =>
      { connection with
        client :=
          { connection.client with adapter, flushes := connection.client.flushes - 1 }
        replies := rest }
  | _, _ => none

def connectionError (connection : AudioConnection) : Option AudioConnection :=
  match connection.client.adapter.pipeBound, connection.pipe.bound, connection.messages,
    connection.replies with
  | true, false, _, [] =>
    some
      { connection with
        client :=
          { connection.client with
            adapter := connection.client.adapter.fault .connectionLost } }
  | false, true, [], _ => some { connection with pipe := connection.pipe.reset }
  | _, _, _, _ => none

def step (owner : Audio.PipeOwner) (connection : AudioConnection) : Event → Option AudioConnection
  | .create size noWrap => connection.alone (.create size noWrap)
  | .send pts cbk => connection.send pts cbk
  | .cancel => connection.alone .cancel
  | .flush => connection.flush
  | .setWatermarks hiWaterMark loWaterMark =>
    connection.alone (.setWatermarks hiWaterMark loWaterMark)
  | .setSignalCallback cbk => connection.alone (.setSignalCallback cbk)
  | .signalTask => connection.alone .signalTask
  | .deliver => connection.deliver owner
  | .release result => connection.release result
  | .reply => connection.reply
  | .connectionError => connection.connectionError

end AudioConnection

end MojoMedia
