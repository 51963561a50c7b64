import Mathlib.Data.List.Basic

set_option autoImplicit false

namespace Transducers

universe u

variable {In Out : Type u}

structure Call (State Out : Type u) where
  done : Bool
  output : Option Out
  state : State

-- `left` bounds the calls a transducer still needs for an input, so that every input has a finite
-- list of outputs.
structure Transducer (In Out : Type u) where
  State : Type u
  start : State
  call : State → In → Bool → Call State Out
  left : State → In → Bool → Nat
  finite : ∀ state input isNew, (call state input isNew).done = false →
    left (call state input isNew).state input false < left state input isNew

namespace Transducer

variable (transducer : Transducer In Out)

def process (state : transducer.State) (input : In) (isNew : Bool) :
    List Out × transducer.State :=
  let result := transducer.call state input isNew
  if result.done = true then (result.output.toList, result.state)
  else
    let later := process result.state input false
    (result.output.toList ++ later.1, later.2)
termination_by transducer.left state input isNew
decreasing_by
  next unfinished => exact transducer.finite state input isNew (by simpa using unfinished)

def outputs : transducer.State → Bool → List In → List Out
  | _, _, [] => []
  | state, isNew, input :: rest =>
    let processed := transducer.process state input isNew
    processed.1 ++ outputs processed.2 true rest

theorem outputs_cons (state : transducer.State) (input : In) (isNew : Bool) (rest : List In) :
    transducer.outputs state isNew (input :: rest) =
      (transducer.process state input isNew).1 ++
        transducer.outputs (transducer.process state input isNew).2 true rest := rfl

theorem outputs_call (state : transducer.State) (input : In) (isNew : Bool) (rest : List In) :
    transducer.outputs state isNew (input :: rest) =
      (transducer.call state input isNew).output.toList ++
        if (transducer.call state input isNew).done = true then
          transducer.outputs (transducer.call state input isNew).state true rest
        else
          transducer.outputs (transducer.call state input isNew).state false (input :: rest) := by
  rw [outputs_cons]
  rw [process]
  by_cases finished : (transducer.call state input isNew).done = true
  · simp only [finished, if_true]
  · simp only [finished, if_false, List.append_assoc, Bool.false_eq_true]
    rw [← outputs_cons]

end Transducer

end Transducers
