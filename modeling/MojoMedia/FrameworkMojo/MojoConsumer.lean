import MojoMedia.FrameworkMojo.MojoProducer

set_option autoImplicit false

-- The payload is not copied: both sides map one buffer, which the producer's graph allocates
-- from, and a pointer is an offset into it.
namespace MojoMedia

open Runs FifoAllocator

-- `supplied` are the packets that were passed to the supply callback. `held` are those of them
-- that the graph has not released, each with the callback it keeps, which is the number of its
-- `SendPacket` message. `tasks` are posted `RunCallback` tasks, and `answers` are in the pipe
-- back to the producer. The last three fields are assertions that failed, and the calls of the
-- callbacks for a prime and a flush.
structure MojoConsumer where
  buffer : Option Nat := none
  supplied : List SharedPacket := []
  held : List (Nat × SharedPacket) := []
  tasks : List Nat := []
  answers : List Nat := []
  failed : Bool := false
  primesRequested : Nat := 0
  flushesRequested : Nat := 0
  deriving Repr, DecidableEq

namespace MojoConsumer

-- `MappedSharedBuffer::PtrFromOffset`, none where an assertion fails.
def ptrFromOffset (buffer : Option Nat) (offset : Nat) : Option (Option Nat) :=
  buffer.bind fun size =>
    if offset = kNullOffset then some none
    else if offset < size then some (some offset) else none

def createPacket (buffer : Option Nat) (mediaPacket : Mojo.MediaPacket) : Option SharedPacket := do
  let region ← mediaPacket.payload
  let payload ← if region.length = 0 then some none else ptrFromOffset buffer region.offset
  if (region.length = 0 ↔ payload = none) then
    some {
      pts := mediaPacket.pts
      endOfStream := mediaPacket.endOfStream
      size := region.length
      payload }
  else none

def sendPacket (consumer : MojoConsumer) (mediaPacket : Mojo.MediaPacket) : MojoConsumer :=
  match createPacket consumer.buffer mediaPacket with
  | none => { consumer with failed := true }
  | some packet =>
    { consumer with
      supplied := consumer.supplied ++ [packet]
      held := consumer.held ++ [(consumer.supplied.length, packet)] }

def receive (consumer : MojoConsumer) (shared : Option Nat) : ConsumerMessage → MojoConsumer
  | .setBuffer => { consumer with buffer := shared }
  | .prime => { consumer with primesRequested := consumer.primesRequested + 1 }
  | .flush => { consumer with flushesRequested := consumer.flushesRequested + 1 }
  | .sendPacket mediaPacket => consumer.sendPacket mediaPacket

def release (consumer : MojoConsumer) (index : Nat) : Option MojoConsumer :=
  consumer.held[index]?.map fun (callback, _) =>
    { consumer with
      held := consumer.held.eraseIdx index
      tasks := consumer.tasks ++ [callback] }

def runTask (consumer : MojoConsumer) : Option MojoConsumer :=
  match consumer.tasks with
  | [] => none
  | callback :: rest =>
    some { consumer with tasks := rest, answers := consumer.answers ++ [callback] }

end MojoConsumer

def SharedPacket.region (packet : SharedPacket) : Option (Nat × Nat) :=
  packet.payload.map fun offset => (packet.size, offset)

-- A producer, the allocator behind it, and the consumer that it is connected to. `drafts` are
-- regions that the producer's graph has allocated and not supplied. `pushed` are the packets
-- whose `SendPacket` task has been run for this consumer or will be, and `calls` are the numbers
-- of the messages that the producer waits for an answer to, in the order of `unanswered`. `read`
-- counts the messages that the consumer has read. `lost` are packets whose answer is dropped with
-- the interface: nothing releases them any more.
structure MojoConnection where
  producer : MojoProducer := {}
  payloads : FifoAllocator.Client := .start 0
  drafts : List (Nat × Nat) := []
  pushed : List SharedPacket := []
  calls : List Nat := []
  lost : List SharedPacket := []
  read : Nat := 0
  consumer : MojoConsumer := {}

namespace MojoConnection

inductive Event where
  -- The producer's graph.
  | allocate (size : Nat)
  | discard (size offset : Nat)
  | supplyPacket (packet : SharedPacket)
  | push
  -- The producer's thread.
  | connect
  | disconnect
  | primeConnection
  | flushConnection
  | proceed
  | sendPacket
  | answer
  -- The consumer and its graph.
  | receive
  | release (index : Nat)
  | runTask
  deriving Repr, DecidableEq

def messages (connection : MojoConnection) : List ConsumerMessage :=
  connection.producer.consumer.getD []

def sent? : ConsumerMessage → Option Mojo.MediaPacket
  | .sendPacket mediaPacket => some mediaPacket
  | .setBuffer | .prime | .flush => none

def sends (messages : List ConsumerMessage) : List Mojo.MediaPacket := messages.filterMap sent?

def allocate (connection : MojoConnection) (size : Nat) : Option MojoConnection := do
  let (offset, allocator) ← connection.payloads.allocator.allocateRegion size
  if offset = kNullOffset then
    some { connection with payloads := { connection.payloads with allocator } }
  else
    some { connection with
      payloads := { allocator, held := (size, offset) :: connection.payloads.held }
      drafts := (size, offset) :: connection.drafts }

def releaseRegion (connection : MojoConnection) (region : Nat × Nat) : Option MojoConnection :=
  (connection.payloads.step (.releaseRegion region.1 region.2)).map fun payloads =>
    { connection with payloads }

def releasePacket (connection : MojoConnection) (packet : SharedPacket) :
    Option MojoConnection :=
  match packet.region with
  | none => some connection
  | some region => connection.releaseRegion region

def initBuffer (connection : MojoConnection) : Option MojoConnection :=
  if connection.producer.buffer = none then
    (connection.payloads.step (.reset (2048 * 1024))).map fun payloads =>
      { connection with payloads }
  else some connection

def detach (connection : MojoConnection) : MojoConnection :=
  { connection with
    pushed := connection.producer.posted.map Prod.fst
    calls := []
    lost := connection.lost ++ connection.producer.unanswered
    read := 0
    consumer := {} }

def move (connection : MojoConnection) (event : MojoProducer.Event) : Option MojoConnection :=
  (connection.producer.step event).map fun producer => { connection with producer }

def Drafted (connection : MojoConnection) (region : Nat × Nat) : Prop :=
  region ∈ connection.drafts

instance (connection : MojoConnection) (region : Nat × Nat) :
    Decidable (connection.Drafted region) :=
  inferInstanceAs (Decidable (region ∈ connection.drafts))

def Supplies (connection : MojoConnection) (packet : SharedPacket) : Prop :=
  match packet.region with
  | none => packet.size = 0
  | some region => connection.Drafted region

instance (connection : MojoConnection) (packet : SharedPacket) :
    Decidable (connection.Supplies packet) :=
  match packet with
  | ⟨_, _, size, none⟩ => inferInstanceAs (Decidable (size = 0))
  | ⟨_, _, size, some offset⟩ => inferInstanceAs (Decidable (connection.Drafted (size, offset)))

def takeDraft (connection : MojoConnection) (packet : SharedPacket) : MojoConnection :=
  { connection with drafts := connection.drafts.diff packet.region.toList }

def supplyPacket (connection : MojoConnection) (packet : SharedPacket) :
    Option MojoConnection := do
  let supplied ← (connection.takeDraft packet).move (.supplyPacket packet)
  if connection.producer.consumer.isSome then some supplied else supplied.releasePacket packet

def proceed (connection : MojoConnection) : Option MojoConnection :=
  match connection.producer.tasks with
  | .answered packet :: _ =>
    (connection.move .proceed).bind fun answered => answered.releasePacket packet
  | .reset :: _ => connection.detach.move .proceed
  | _ => connection.move .proceed

def answer (connection : MojoConnection) : Option MojoConnection :=
  match connection.consumer.answers with
  | [] => none
  | call :: rest =>
    let index := connection.calls.idxOf call
    (connection.move (.answer index)).map fun answered =>
      { answered with
        calls := connection.calls.eraseIdx index
        consumer := { connection.consumer with answers := rest } }

def receive (connection : MojoConnection) : Option MojoConnection :=
  if connection.consumer.failed then none
  else connection.messages[connection.read]?.map fun message =>
    { connection with
      read := connection.read + 1
      consumer := connection.consumer.receive connection.producer.buffer message }

def step (connection : MojoConnection) : Event → Option MojoConnection
  | .allocate size =>
    if connection.producer.buffer = none ∨ size = 0 then none else connection.allocate size
  | .discard size offset =>
    if connection.Drafted (size, offset) then
      { connection with
        drafts := connection.drafts.erase (size, offset) }.releaseRegion (size, offset)
    else none
  | .supplyPacket packet =>
    if connection.Supplies packet then connection.supplyPacket packet else none
  | .push =>
    (connection.move .push).map fun pushed =>
      { pushed with pushed := connection.pushed ++ connection.producer.accepted.toList }
  | .connect =>
    connection.initBuffer.bind fun initialized => initialized.detach.move .connect
  | .disconnect => connection.move .disconnect
  | .primeConnection =>
    if connection.producer.consumer.isSome then connection.move .primeConnection
    else connection.initBuffer.bind fun initialized => initialized.move .primeConnection
  | .flushConnection => connection.move .flushConnection
  | .proceed => connection.proceed
  | .sendPacket =>
    (connection.move .sendPacket).map fun sent =>
      { sent with calls := connection.calls ++ [(sends connection.messages).length] }
  | .answer => connection.answer
  | .receive => connection.receive
  | .release index =>
    (connection.consumer.release index).map fun consumer => { connection with consumer }
  | .runTask => connection.consumer.runTask.map fun consumer => { connection with consumer }

end MojoConnection

end MojoMedia
