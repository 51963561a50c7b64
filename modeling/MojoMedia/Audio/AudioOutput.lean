import MojoMedia.Shared.Histories
import MojoMedia.Shared.Runs

set_option autoImplicit false

-- Processing callbacks run on a worker, one after another, under `processing_lock_`. The two
-- flags of the shutdown are written under `shutdown_lock_`, and read without it.
namespace MojoMedia.Audio

namespace AudioOutput

inductive Thread where
  | main
  | worker
  deriving Repr, DecidableEq

inductive Caller where
  | shutdownOutput
  | shutdown
  deriving Repr, DecidableEq

-- Where the main message loop is. A task that names a method waits for the lock of the method,
-- and the next one has it.
inductive MainTask where
  | idle
  | addTrackLink (link : Nat)
  | adding (link : Nat)
  | removeTrackLink (link : Nat)
  | removing (link : Nat)
  | beginShutdown (caller : Caller)
  | beginning (caller : Caller)
  | synchronize (caller : Caller)
  | synchronized (caller : Caller)
  | unlink (caller : Caller) (rest : List Nat)
  | cleanup (caller : Caller)
  -- `thread_pool_->Shutdown()`
  | joinThreads
  deriving Repr, DecidableEq

-- Where the worker is in `ProcessThunk`, with the output locked from the weak pointer.
inductive WorkerTask where
  | idle
  | processThunk
  | entered
  | process
  | scheduleCallback
  | scheduling
  | shutdownSelf
  | shuttingDownSelf
  | finishShutdown
  | left
  deriving Repr, DecidableEq

inductive Note where
  | added (link : Nat)
  | removed (link : Nat)
  | dropped (link : Nat)
  | removeOutput (link : Nat)
  | process
  | finishShutdown
  | cleanup
  | destroyed
  deriving Repr, DecidableEq

end AudioOutput

-- An output, with what its manager and the threads hold of it. `callbacks` are posted
-- `ProcessThunk` tasks, and `messages` are posted `FinishShutdownSelf` tasks.
structure AudioOutput where
  -- In `outputs_` of the manager, which has its `thread_pool_`.
  listed : Bool := true
  threadPool : Bool := true
  weakSelf : Bool := false
  taskRunner : Bool := false
  shuttingDown : Bool := false
  shutDown : Bool := false
  processingLock : Option AudioOutput.Thread := none
  shutdownLock : Option AudioOutput.Thread := none
  links : List Nat := []
  nextLink : Nat := 0
  callbacks : Nat := 0
  messages : Nat := 0
  main : AudioOutput.MainTask := .idle
  worker : AudioOutput.WorkerTask := .idle
  -- A `DCHECK` has failed.
  failed : Bool := false
  trace : List AudioOutput.Note := []
  deriving Repr, DecidableEq

namespace AudioOutput

inductive Action where
  | dropLink (link : Nat)
  | scheduleCallback
  | shutdownSelf
  | finish
  deriving Repr, DecidableEq

inductive Call where
  | addTrackLink
  | removeTrackLink (link : Nat)
  | finishShutdownSelf
  | shutdown
  deriving Repr, DecidableEq

inductive Event where
  | call (request : Call)
  | main
  | processThunk
  | process (action : Action)
  | worker
  deriving Repr, DecidableEq

def note (output : AudioOutput) (note : Note) : AudioOutput :=
  { output with trace := output.trace ++ [note] }

def check (output : AudioOutput) (condition : Bool) : AudioOutput :=
  { output with failed := output.failed || !condition }

def referenced (output : AudioOutput) : Bool :=
  output.listed || output.worker != .idle || (output.main != .idle && output.main != .joinThreads)

def dropReference (output : AudioOutput) : AudioOutput :=
  { output with
    failed := output.failed || !output.referenced && (output.taskRunner || !output.shuttingDown)
    trace := if output.referenced then output.trace else output.trace ++ [.destroyed] }

-- `BeginShutdown`, under `shutdown_lock_`. The result is whether it had begun before.
def beginShutdown (output : AudioOutput) : Bool × AudioOutput :=
  (output.shuttingDown,
    { output with
      shuttingDown := true
      taskRunner := if output.shuttingDown then output.taskRunner else false })

def eraseLink (output : AudioOutput) (link : Nat) (note : Note) : AudioOutput :=
  { output with
    links := output.links.erase link
    trace := if link ∈ output.links then output.trace ++ [note] else output.trace }

-- `AudioOutputManager::Init`, with what `Init` of the derived class says. When that fails the
-- output posts a message whose weak pointer is null, and the manager lets go of it.
def init : Bool → AudioOutput
  | true => { taskRunner := true, weakSelf := true, callbacks := 1 }
  | false =>
    let output : AudioOutput := { }
    let begun := output.beginShutdown.2
    let posted := if output.beginShutdown.1 then begun else
      { begun with messages := begun.messages + 1 }.note .finishShutdown
    dropReference { posted with listed := false }

def Caller.next : Caller → MainTask
  | .shutdownOutput => .idle
  | .shutdown => .joinThreads

def finish (output : AudioOutput) (caller : Caller) : AudioOutput :=
  dropReference { output with listed := false, main := caller.next }

def callShutdown (output : AudioOutput) (caller : Caller) : AudioOutput :=
  if output.shutDown then output.finish caller else { output with main := .beginShutdown caller }

def shutdownOutput (output : AudioOutput) : AudioOutput :=
  let checked := output.check output.threadPool
  if checked.listed then checked.callShutdown .shutdownOutput else checked

def finishShutdownSelf (output : AudioOutput) : AudioOutput :=
  if output.weakSelf && output.referenced then output.shutdownOutput else output

def call (output : AudioOutput) : Call → Option AudioOutput
  -- `SelectOutputsForTrack` goes through the outputs of the manager, with a new link for each.
  | .addTrackLink =>
    if output.listed then
      some { output with main := .addTrackLink output.nextLink, nextLink := output.nextLink + 1 }
    else none
  | .removeTrackLink link =>
    if output.referenced then some { output with main := .removeTrackLink link } else none
  | .finishShutdownSelf =>
    if output.messages = 0 then none
    else some { output with messages := output.messages - 1 }.finishShutdownSelf
  | .shutdown =>
    if output.threadPool = false then none
    else if output.listed then some (output.callShutdown .shutdown)
    else some { output with main := .joinThreads }

def stepMain (output : AudioOutput) : Option AudioOutput :=
  match output.main with
  | .idle => none
  | .addTrackLink link =>
    if output.processingLock = none then
      some { output with processingLock := some .main, main := .adding link }
    else none
  | .adding link =>
    let added := if output.shuttingDown then output else
      ({ output with links := output.links ++ [link] }.check (link ∉ output.links)).note
        (.added link)
    some (dropReference { added with processingLock := none, main := .idle })
  | .removeTrackLink link =>
    if output.processingLock = none then
      some { output with processingLock := some .main, main := .removing link }
    else none
  | .removing link =>
    let removed := if output.shuttingDown then output else output.eraseLink link (.removed link)
    some (dropReference { removed with processingLock := none, main := .idle })
  | .beginShutdown caller =>
    if output.shutdownLock = none then
      some { output with shutdownLock := some .main, main := .beginning caller }
    else none
  | .beginning caller =>
    some { output.beginShutdown.2 with shutdownLock := none, main := .synchronize caller }
  | .synchronize caller =>
    if output.processingLock = none then
      some { output with processingLock := some .main, main := .synchronized caller }
    else none
  | .synchronized caller =>
    some { output with processingLock := none, main := .unlink caller output.links }
  | .unlink caller (link :: rest) =>
    some ({ output with main := .unlink caller rest }.note (.removeOutput link))
  | .unlink caller [] => some { output with links := [], main := .cleanup caller }
  | .cleanup caller => some ({ output with shutDown := true }.note .cleanup |>.finish caller)
  -- The pool waits for the callback that is running, and skips the others.
  | .joinThreads =>
    if output.worker = .idle then
      some { output with threadPool := false, callbacks := 0, main := .idle }
    else none

def processing (output : AudioOutput) : Action → AudioOutput
  -- `ForeachTrack` drops a link whose track is gone.
  | .dropLink link => output.eraseLink link (.dropped link)
  | .scheduleCallback => { output with worker := .scheduleCallback }
  | .shutdownSelf => { output with worker := .shutdownSelf }
  | .finish => { output with processingLock := none, worker := .left }

def stepWorker (output : AudioOutput) : Option AudioOutput :=
  match output.worker with
  | .idle | .process => none
  | .processThunk =>
    if output.processingLock = none then
      some { output with processingLock := some .worker, worker := .entered }
    else none
  | .entered =>
    if output.shuttingDown then some { output with processingLock := none, worker := .left }
    else some ({ output with worker := .process }.note .process)
  | .scheduleCallback =>
    if output.shutdownLock = none then
      some { output with shutdownLock := some .worker, worker := .scheduling }
    else none
  | .scheduling =>
    let scheduled :=
      if output.shuttingDown then output.check (!output.taskRunner)
      else { output.check output.taskRunner with callbacks := output.callbacks + 1 }
    some { scheduled with shutdownLock := none, worker := .process }
  | .shutdownSelf =>
    if output.shutdownLock = none then
      some { output with shutdownLock := some .worker, worker := .shuttingDownSelf }
    else none
  | .shuttingDownSelf =>
    some
      { output.beginShutdown.2 with
        shutdownLock := none
        worker := if output.beginShutdown.1 then .process else .finishShutdown }
  | .finishShutdown =>
    some ({ output with messages := output.messages + 1, worker := .process }.note .finishShutdown)
  | .left => some (dropReference { output with worker := .idle })

-- The weak pointer of a callback is locked, if there is still an output.
def processThunk (output : AudioOutput) : AudioOutput :=
  if output.weakSelf && output.referenced then { output with worker := .processThunk } else output

def step (output : AudioOutput) : Event → Option AudioOutput
  | .call request => if output.main = .idle then output.call request else none
  | .main => output.stepMain
  | .processThunk =>
    if output.callbacks = 0 ∨ output.worker ≠ .idle then none
    else some { output with callbacks := output.callbacks - 1 }.processThunk
  | .process action => if output.worker = .process then some (output.processing action) else none
  | .worker => output.stepWorker

end AudioOutput

end MojoMedia.Audio
