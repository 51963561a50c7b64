import MojoMedia.Shared.OrderedMap
import MojoMedia.Shared.Runs

set_option autoImplicit false

-- All of the code runs on one thread. What the handlers keep is one state, and what they do to
-- the pump when they are notified is a list of actions.
namespace MojoMedia

inductive MojoResult where
  | ok
  | cancelled
  | failedPrecondition
  | deadlineExceeded
  deriving Repr, DecidableEq

structure Handler where
  handler : Nat
  deadline : Int
  id : Nat
  deriving Repr, DecidableEq

inductive PumpAction where
  | addHandler (handler handle : Nat) (deadline : Int)
  | removeHandler (handle : Nat)
  deriving Repr, DecidableEq

-- A record of what happens to registrations. A registration that is broken leaves and is notified
-- at once. One that has expired is notified, and after that the registration of its handle is
-- erased.
inductive Moment where
  | added (id : Nat)
  | removed (id : Nat)
  | ready (id : Nat)
  | broken (id : Nat)
  | expired (id : Nat)
  | erased (id notified : Nat)
  deriving Repr, DecidableEq

structure MessagePumpMojo where
  handlers : OrderedMap Handler := OrderedMap.empty
  -- An `int`: the ids do not repeat as long as there are fewer than 2^31 registrations.
  nextHandlerId : Nat := 0
  log : List Moment := []

structure Handlers (σ : Type) where
  onHandleReady : σ → (handler handle : Nat) → σ × List PumpAction
  onHandleError : σ → (handler handle : Nat) → MojoResult → σ × List PumpAction

namespace MessagePumpMojo

def addHandler (pump : MessagePumpMojo) (handler handle : Nat) (deadline : Int) :
    Option MessagePumpMojo :=
  match pump.handlers.get? handle with
  | some _ => none
  | none => some
    { handlers := pump.handlers.assign handle { handler, deadline, id := pump.nextHandlerId }
      nextHandlerId := pump.nextHandlerId + 1
      log := pump.log ++ [.added pump.nextHandlerId] }

def leave (pump : MessagePumpMojo) (handle : Nat) (moment : Nat → Moment) : MessagePumpMojo :=
  match pump.handlers.get? handle with
  | some handler =>
    { pump with
      handlers := pump.handlers.erase handle
      log := pump.log ++ [moment handler.id] }
  | none => pump

def removeHandler (pump : MessagePumpMojo) (handle : Nat) : MessagePumpMojo :=
  pump.leave handle .removed

def perform (pump : MessagePumpMojo) : PumpAction → Option MessagePumpMojo
  | .addHandler handler handle deadline => pump.addHandler handler handle deadline
  | .removeHandler handle => some (pump.removeHandler handle)

end MessagePumpMojo

structure Pumping (σ : Type) where
  state : σ
  pump : MessagePumpMojo := {}
  didWork : Bool := true

inductive WaitManyResult where
  | controlPipe
  | ready (handle : Nat)
  | failedPrecondition (handle : Nat)
  | deadlineExceeded
  deriving Repr, DecidableEq

namespace Pumping

open Runs

variable {σ : Type}

def react (pumping : Pumping σ) (reaction : σ × List PumpAction) : Option (Pumping σ) :=
  (run MessagePumpMojo.perform pumping.pump reaction.2).map fun pump =>
    { pumping with state := reaction.1, pump }

def record (pumping : Pumping σ) (moment : Moment) : Pumping σ :=
  { pumping with pump := { pumping.pump with log := pumping.pump.log ++ [moment] } }

def signal (handlers : Handlers σ) (pumping : Pumping σ) : WaitManyResult → Option (Pumping σ)
  | .controlPipe => some { pumping with didWork := true }
  | .ready handle =>
    match pumping.pump.handlers.get? handle with
    | some entry => (({ pumping with didWork := true } : Pumping σ).record (.ready entry.id)).react
        (handlers.onHandleReady pumping.state entry.handler handle)
    | none => none
  | .failedPrecondition handle =>
    match pumping.pump.handlers.get? handle with
    | some entry => ({ pumping with
        pump := pumping.pump.leave handle .broken
        didWork := true } : Pumping σ).react
          (handlers.onHandleError pumping.state entry.handler handle .failedPrecondition)
    | none => none
  | .deadlineExceeded => some { pumping with didWork := false }

def Due (now : Int) (pumping : Pumping σ) (entry : Nat × Handler) : Prop :=
  entry.2.deadline ≠ 0 ∧ entry.2.deadline < now ∧
    (pumping.pump.handlers.get? entry.1).map Handler.id = some entry.2.id

instance (now : Int) (pumping : Pumping σ) (entry : Nat × Handler) :
    Decidable (pumping.Due now entry) :=
  inferInstanceAs (Decidable (_ ∧ _))

def eraseExpired (pumping : Pumping σ) (entry : Nat × Handler) : Pumping σ :=
  { pumping with
    pump := pumping.pump.leave entry.1 (Moment.erased · entry.2.id)
    didWork := true }

def expire (handlers : Handlers σ) (now : Int) (pumping : Pumping σ) (entry : Nat × Handler) :
    Option (Pumping σ) :=
  if pumping.Due now entry then
    ((pumping.record (.expired entry.2.id)).react
      (handlers.onHandleError pumping.state entry.2.handler entry.1 .deadlineExceeded)).map
        (eraseExpired · entry)
  else some pumping

def doInternalWork (handlers : Handlers σ) (pumping : Pumping σ) (result : WaitManyResult)
    (now : Int) : Option (Pumping σ) :=
  (pumping.signal handlers result).bind fun signalled =>
    run (expire handlers now) signalled signalled.pump.handlers.entries

inductive Event (σ : Type) where
  | call (reaction : σ × List PumpAction)
  | work (result : WaitManyResult) (now : Int)

def step (handlers : Handlers σ) (pumping : Pumping σ) : Event σ → Option (Pumping σ)
  | .call reaction => pumping.react reaction
  | .work result now => pumping.doInternalWork handlers result now

end Pumping

end MojoMedia
