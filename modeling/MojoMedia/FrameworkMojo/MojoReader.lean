import MojoMedia.Shared.Runs
import MojoMedia.Framework.ReaderCacheServe

set_option autoImplicit false

-- Each callback runs to its end on one thread. What `ReadDataRaw` returns comes with the event.
namespace MojoMedia

open MachineInt

namespace MojoReader

inductive MojoResult where
  | ok
  | cancelled
  | unknown
  | invalidArgument
  | deadlineExceeded
  | notFound
  | alreadyExists
  | permissionDenied
  | resourceExhausted
  | failedPrecondition
  | aborted
  | outOfRange
  | unimplemented
  | internal
  | unavailable
  | dataLoss
  | busy
  | shouldWait
  deriving Repr, DecidableEq

def convertResult : MojoResult → Result
  | .ok => .ok
  | .internal => .internalError
  | .unimplemented => .unsupportedOperation
  | .invalidArgument => .invalidArgument
  | .notFound => .notFound
  | _ => .unknownError

abbrev Pipe := List UInt8

structure ReadData where
  result : MojoResult
  byteCount : Nat
  deriving Repr, DecidableEq

inductive Pending where
  | nothing
  | task
  | ready
  | seekingReader
  | readable
  deriving Repr, DecidableEq

end MojoReader

open MojoReader

-- `request` is what `ReadAt` was called with, while the read is in progress, and `readAtBuffer`
-- what has been read since.
structure MojoReader where
  result : Result := .ok
  size : Nat := kUnknownSize
  canSeek : Bool := false
  ready : Bool := false
  request : Option (Nat × Nat) := none
  readAtPosition : Nat := 0
  readAtBuffer : List UInt8 := []
  readAtBytesToRead : Nat := 0
  readAtBytesRemaining : Nat := 0
  consumerHandle : Option Pipe := none
  consumerHandlePosition : Nat := kUnknownSize
  pending : Pending := .nothing
  requests : List (Nat × Nat) := []
  completions : List Completion := []

namespace MojoReader

inductive Event where
  | describe (result : Result) (size : Nat) (canSeek : Bool) (read : ReadData)
  | readAt (position bytesToRead : Nat)
  | task (read : ReadData)
  | opened (result : Result) (pipe : Option Pipe) (read : ReadData)
  | readable (result : MojoResult) (read : ReadData)
  deriving Repr, DecidableEq

def completeReadAt (reader : MojoReader) (result : Result) (bytesRead : Nat) : MojoReader :=
  { reader with
    request := none
    pending := .nothing
    completions := reader.completions ++ reader.request.toList.map fun request =>
      { position := request.1
        bytesToRead := request.2
        result
        bytesRead
        bytes := reader.readAtBuffer } }

def failReadAt (reader : MojoReader) (result : MojoResult) : MojoReader :=
  completeReadAt { reader with
    result := convertResult result
    consumerHandle := none
    consumerHandlePosition := kUnknownSize } (convertResult result) 0

def advance (reader : MojoReader) (pipe : Pipe) (byteCount : Nat) : MojoReader :=
  { reader with
    readAtBuffer := reader.readAtBuffer ++ pipe.take byteCount
    readAtBytesRemaining := subU64 reader.readAtBytesRemaining byteCount
    consumerHandle := some (pipe.drop byteCount)
    consumerHandlePosition := u64 (reader.consumerHandlePosition + byteCount) }

def continueOrComplete (reader : MojoReader) : MojoReader :=
  if reader.readAtBytesRemaining = 0 then reader.completeReadAt .ok reader.readAtBytesToRead
  else { reader with pending := .readable }

-- A pipe yields no more than it has, and no more than it is asked for. Without a pipe, there is
-- nothing to read from.
def readResponseBody (reader : MojoReader) (read : ReadData) : Option MojoReader :=
  match reader.consumerHandle with
  | none => some (reader.failReadAt .invalidArgument)
  | some pipe =>
    match read.result with
    | .ok =>
      if read.byteCount ≤ u32 reader.readAtBytesRemaining ∧ read.byteCount ≤ pipe.length then
        some (reader.advance pipe read.byteCount).continueOrComplete
      else none
    | .shouldWait => some (reader.advance pipe 0).continueOrComplete
    | other => some (reader.failReadAt other)

def bounded (reader : MojoReader) : MojoReader :=
  let bytesToRead :=
    if reader.size < u64 (reader.readAtPosition + reader.readAtBytesToRead) then
      subU64 reader.size reader.readAtPosition
    else reader.readAtBytesToRead
  { reader with
    readAtBytesToRead := bytesToRead
    readAtBytesRemaining := bytesToRead }

def startReadAt (reader : MojoReader) (read : ReadData) : Option MojoReader :=
  if reader.result ≠ .ok then some (reader.completeReadAt reader.result 0)
  else
    let bounded := reader.bounded
    if bounded.readAtPosition = bounded.consumerHandlePosition then bounded.readResponseBody read
    else
      let closed :=
        { bounded with
          consumerHandle := none
          consumerHandlePosition := kUnknownSize }
      if closed.canSeek = false ∧ closed.readAtPosition ≠ 0 then
        some (closed.completeReadAt .invalidArgument 0)
      else some { closed with pending := .seekingReader }

def continueReadAt (reader : MojoReader) (read : ReadData) : Option MojoReader :=
  if reader.ready then reader.startReadAt read else some { reader with pending := .ready }

def describe (reader : MojoReader) (result : Result) (size : Nat) (canSeek : Bool)
    (read : ReadData) : Option MojoReader :=
  let described :=
    if result = .ok then { reader with result, size, canSeek, ready := true }
    else { reader with result, ready := true }
  if described.pending = .ready then described.startReadAt read else some described

def readAt (reader : MojoReader) (position bytesToRead : Nat) : MojoReader :=
  { reader with
    request := some (position, bytesToRead)
    readAtPosition := position
    readAtBuffer := []
    readAtBytesToRead := bytesToRead
    pending := .task
    requests := reader.requests ++ [(position, bytesToRead)] }

def opened (reader : MojoReader) (result : Result) (pipe : Option Pipe) (read : ReadData) :
    Option MojoReader :=
  let answered := { reader with result }
  if result ≠ .ok then some (answered.completeReadAt result 0)
  else
    readResponseBody { answered with
      consumerHandle := pipe
      consumerHandlePosition := answered.readAtPosition } read

def readable (reader : MojoReader) (result : MojoResult) (read : ReadData) : Option MojoReader :=
  if result ≠ .ok then some (reader.failReadAt result) else reader.readResponseBody read

def step (reader : MojoReader) : Event → Option MojoReader
  | .describe result size canSeek read =>
    if reader.ready then none else reader.describe result size canSeek read
  | .readAt position bytesToRead =>
    if reader.request = none then some (reader.readAt position bytesToRead) else none
  | .task read => if reader.pending = .task then reader.continueReadAt read else none
  | .opened result pipe read =>
    if reader.pending = .seekingReader then reader.opened result pipe read else none
  | .readable result read =>
    if reader.pending = .readable then reader.readable result read else none

end MojoReader

end MojoMedia
