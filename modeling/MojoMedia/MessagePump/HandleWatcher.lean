import MojoMedia.MessagePump.MessagePumpMojo

set_option autoImplicit false

-- A call goes on in steps: what it does under the lock is one step, and so is the task that it
-- posts. Between two runs of `ProcessRequestsOnBackendThread` the pump of the backend thread does
-- its work.
namespace MojoMedia

structure WatchData where
  id : Nat
  handle : Nat
  deadline : Int
  deriving Repr, DecidableEq

structure WatcherBackend where
  handleToData : OrderedMap WatchData := OrderedMap.empty
  posted : List (Nat × MojoResult) := []

namespace WatcherBackend

def removeAndNotify (backend : WatcherBackend) (handle : Nat) (result : MojoResult) :
    WatcherBackend × List PumpAction :=
  match backend.handleToData.get? handle with
  | none => (backend, [])
  | some data =>
    ({ handleToData := backend.handleToData.erase handle
       posted := backend.posted ++ [(data.id, result)] }, [.removeHandler handle])

def startWatching (backend : WatcherBackend) (data : WatchData) :
    WatcherBackend × List PumpAction :=
  let (backend, actions) := backend.removeAndNotify data.handle .cancelled
  ({ backend with handleToData := backend.handleToData.assign data.handle data },
    actions ++ [.addHandler 0 data.handle data.deadline])

def getMojoHandleByWatcherID (backend : WatcherBackend) (watcherId : Nat) : Option Nat :=
  (backend.handleToData.entries.find? fun entry => entry.2.id == watcherId).map (·.2.handle)

def stopWatching (backend : WatcherBackend) (watcherId : Nat) :
    WatcherBackend × List PumpAction :=
  match backend.getMojoHandleByWatcherID watcherId with
  | some handle =>
    ({ backend with handleToData := backend.handleToData.erase handle }, [.removeHandler handle])
  | none => (backend, [])

def handlers : Handlers WatcherBackend where
  onHandleReady backend _ handle := backend.removeAndNotify handle .ok
  onHandleError backend _ handle result := backend.removeAndNotify handle result

end WatcherBackend

inductive Request where
  | start (data : WatchData)
  | stop (watcherId call : Nat)
  deriving Repr, DecidableEq

inductive CallStage where
  | starting (data : WatchData)
  | startPosting (watcherId : Nat)
  | started (watcherId : Nat)
  | cancelled (watcherId : Nat)
  | stopping (watcherId : Nat)
  | stopPosting (watcherId : Nat)
  | waiting (watcherId : Nat)
  | stopped (watcherId : Nat)
  deriving Repr, DecidableEq

-- `tasks` are the calls whose tasks are posted and have not run, `batch` what is left of the
-- requests that the backend thread has taken, `signals` the calls whose events were signalled.
-- `opener` is the call that found no requests before its own.
structure WatcherThreadManager where
  -- An `int`: the ids do not repeat as long as there are fewer than 2^31 of them.
  nextWatcherId : Nat := 0
  calls : List CallStage := []
  requests : List Request := []
  opener : Option Nat := none
  tasks : List Nat := []
  batch : List Request := []
  signals : List Nat := []
  backend : Pumping WatcherBackend := { state := {} }

namespace WatcherThreadManager

-- The lock is held. The caller posts a task if there was no request.
def addRequest (manager : WatcherThreadManager) (call : Nat) (request : Request)
    (posting done : CallStage) : WatcherThreadManager :=
  { manager with
    requests := manager.requests ++ [request]
    calls := manager.calls.set call (if manager.requests.isEmpty then posting else done)
    opener := if manager.requests.isEmpty then some call else manager.opener }

def isStart (watcherId : Nat) : Request → Bool
  | .start data => data.id == watcherId
  | .stop _ _ => false

def handleRequest (manager : WatcherThreadManager) : Request → Option WatcherThreadManager
  | .start data =>
    (manager.backend.react (manager.backend.state.startWatching data)).map fun backend =>
      { manager with backend }
  | .stop watcherId call =>
    (manager.backend.react (manager.backend.state.stopWatching watcherId)).map fun backend =>
      { manager with backend, signals := manager.signals ++ [call] }

inductive Event where
  | start (handle : Nat) (deadline : Int)
  | stop (watcherId : Nat)
  | add (call : Nat)
  | post (call : Nat)
  | wake (call : Nat)
  | swap
  | process
  | work (result : WaitManyResult) (now : Int)
  deriving Repr, DecidableEq

def step (manager : WatcherThreadManager) : Event → Option WatcherThreadManager
  | .start handle deadline => some { manager with
      nextWatcherId := manager.nextWatcherId + 1
      calls := manager.calls ++ [.starting { id := manager.nextWatcherId, handle, deadline }] }
  | .stop watcherId =>
    -- An id is known once `StartWatching` has returned it.
    if .started watcherId ∈ manager.calls then
      if manager.requests.any (isStart watcherId) then some { manager with
        requests := manager.requests.eraseP (isStart watcherId)
        calls := manager.calls ++ [.cancelled watcherId] }
      else some { manager with calls := manager.calls ++ [.stopping watcherId] }
    else none
  | .add call =>
    match manager.calls[call]? with
    | some (.starting data) =>
      some (manager.addRequest call (.start data) (.startPosting data.id) (.started data.id))
    | some (.stopping watcherId) =>
      some (manager.addRequest call (.stop watcherId call) (.stopPosting watcherId)
        (.waiting watcherId))
    | _ => none
  | .post call =>
    match manager.calls[call]? with
    | some (.startPosting watcherId) => some { manager with
        tasks := manager.tasks ++ [call]
        calls := manager.calls.set call (.started watcherId) }
    | some (.stopPosting watcherId) => some { manager with
        tasks := manager.tasks ++ [call]
        calls := manager.calls.set call (.waiting watcherId) }
    | _ => none
  | .wake call =>
    match manager.calls[call]? with
    | some (.waiting watcherId) =>
      if call ∈ manager.signals then
        some { manager with calls := manager.calls.set call (.stopped watcherId) }
      else none
    | _ => none
  | .swap =>
    match manager.batch, manager.tasks with
    | [], _ :: tasks => some { manager with tasks, batch := manager.requests, requests := [] }
    | _, _ => none
  | .process =>
    match manager.batch with
    | request :: rest => { manager with batch := rest }.handleRequest request
    | [] => none
  | .work result now =>
    if manager.batch.isEmpty then
      (manager.backend.doInternalWork WatcherBackend.handlers result now).map fun backend =>
        { manager with backend }
    else none

end WatcherThreadManager

end MojoMedia
