import Mathlib.Algebra.BigOperators.Group.List.Basic
import Mathlib.Algebra.GroupWithZero.Nat
import Mathlib.Data.List.Basic
import Mathlib.Logic.Function.Basic

set_option autoImplicit false

namespace Pipes

universe u v

variable {Key : Type u} {Message : Type v} [DecidableEq Key]

def send (pipes : Key → List Message) (key : Key) (message : Message) : Key → List Message :=
  Function.update pipes key (pipes key ++ [message])

def sendAll (pipes : Key → List Message) : List (Key × Message) → Key → List Message
  | [] => pipes
  | (key, message) :: rest => sendAll (send pipes key message) rest

def addressed (key : Key) (messages : List (Key × Message)) : List Message :=
  (messages.filter fun message => message.1 = key).map Prod.snd

def receive (pipes : Key → List Message) (key : Key) : Option (Message × (Key → List Message)) :=
  match pipes key with
  | [] => none
  | message :: rest => some (message, Function.update pipes key rest)

@[simp] theorem send_self (pipes : Key → List Message) (key : Key) (message : Message) :
    send pipes key message key = pipes key ++ [message] := by
  simp [send]

@[simp] theorem send_other (pipes : Key → List Message) {key other : Key} (message : Message)
    (different : other ≠ key) : send pipes key message other = pipes other := by
  simp [send, different]

theorem sendAll_apply (pipes : Key → List Message) (messages : List (Key × Message)) (key : Key) :
    sendAll pipes messages key = pipes key ++ addressed key messages := by
  induction messages generalizing pipes with
  | nil => simp [sendAll, addressed]
  | cons first rest ih =>
    obtain ⟨receiver, message⟩ := first
    rw [sendAll, ih]
    by_cases same : receiver = key
    · subst same
      simp [addressed]
    · simp [addressed, same, Ne.symm same]

@[simp] theorem addressed_nil (key : Key) :
    addressed key ([] : List (Key × Message)) = [] := rfl

theorem addressed_map (keys : List Key) (key : Key) (message : Message) :
    addressed key (keys.map fun receiver => (receiver, message)) =
      List.replicate (keys.count key) message := by
  induction keys with
  | nil => rfl
  | cons first rest ih =>
    by_cases same : first = key
    · subst same
      simpa [addressed, List.replicate_succ] using ih
    · simpa [addressed, same] using ih

theorem receive_cases {pipes next : Key → List Message} {key : Key} {message : Message}
    (taken : receive pipes key = some (message, next)) :
    pipes key = message :: next key ∧ ∀ other, other ≠ key → next other = pipes other := by
  unfold receive at taken
  split at taken
  next => cases taken
  next first rest front =>
    obtain ⟨rfl, rfl⟩ := by simpa using taken
    refine ⟨by simp [front], ?_⟩
    intro other different
    simp [different]

theorem sum_map_succ {Element : Type} {elements : List Element} {before after : Element → Nat}
    {changed : Element} (distinct : elements.Nodup) (member : changed ∈ elements)
    (others : ∀ element, element ≠ changed → before element = after element)
    (here : before changed = after changed + 1) :
    (elements.map before).sum = (elements.map after).sum + 1 := by
  induction elements with
  | nil => cases member
  | cons first rest ih =>
    obtain ⟨fresh, distinct⟩ := List.nodup_cons.mp distinct
    simp only [List.map_cons, List.sum_cons]
    rcases List.mem_cons.mp member with rfl | later
    next =>
      have same : rest.map before = rest.map after :=
        List.map_congr_left fun element inside =>
          others element fun equal => fresh (equal ▸ inside)
      rw [here, same]
      omega
    next =>
      have different : first ≠ changed := fun equal => fresh (equal ▸ later)
      rw [others first different, ih distinct later]
      omega

end Pipes
