import Mathlib.Data.Option.Basic

set_option autoImplicit false

namespace MojoMedia.Framework

variable {Callback : Type}

structure CallbackJoiner (Callback : Type) where
  counter : Nat := 0
  joinCallback : Option Callback := none
  deriving Repr, DecidableEq

namespace CallbackJoiner

def spawn (joiner : CallbackJoiner Callback) : CallbackJoiner Callback :=
  { joiner with counter := joiner.counter + 1 }

def complete (joiner : CallbackJoiner Callback) :
    Option (CallbackJoiner Callback × Option Callback) :=
  if joiner.counter = 0 then none
  else
    let counter := joiner.counter - 1
    if counter = 0 then some ({ counter, joinCallback := none }, joiner.joinCallback)
    else some ({ joiner with counter }, none)

def whenJoined (joiner : CallbackJoiner Callback) (joinCallback : Callback) :
    Option (CallbackJoiner Callback × Option Callback) :=
  if joiner.joinCallback.isSome then none
  else if joiner.counter = 0 then some (joiner, some joinCallback)
  else some ({ joiner with joinCallback := some joinCallback }, none)

def Waits (joiner : CallbackJoiner Callback) (children : Nat) (callback : Callback) : Prop :=
  joiner.counter = children ∧ joiner.joinCallback = if children = 0 then none else some callback

theorem complete_unregistered {joiner : CallbackJoiner Callback}
    (unregistered : joiner.joinCallback = none) (spawned : joiner.counter ≠ 0) :
    joiner.complete = some ({ counter := joiner.counter - 1 }, none) := by
  cases joiner
  simp_all [complete]

theorem complete_waits {joiner : CallbackJoiner Callback} {children : Nat} {callback : Callback}
    (waits : joiner.Waits (children + 1) callback) :
    ∃ next, joiner.complete = some (next, if children = 0 then some callback else none) ∧
      next.Waits children callback := by
  obtain ⟨counter, registered⟩ := waits
  rw [if_neg (Nat.succ_ne_zero children)] at registered
  by_cases last : children = 0
  · subst last
    exact ⟨{ }, by simp [complete, counter, registered], rfl, rfl⟩
  · refine ⟨{ joiner with counter := children }, ?_, rfl, ?_⟩
    · simp [complete, counter, last]
    · simp [registered, last]

theorem whenJoined_unregistered {joiner : CallbackJoiner Callback} (callback : Callback)
    (unregistered : joiner.joinCallback = none) :
    ∃ next, joiner.whenJoined callback =
        some (next, if joiner.counter = 0 then some callback else none) ∧
      next.Waits joiner.counter callback := by
  by_cases done : joiner.counter = 0
  · exact ⟨joiner, by simp [whenJoined, unregistered, done], rfl, by simp [done, unregistered]⟩
  · exact ⟨{ joiner with joinCallback := some callback },
      by simp [whenJoined, unregistered, done], rfl, by simp [done]⟩

theorem spawn_waits {joiner : CallbackJoiner Callback} {children : Nat} {callback : Callback}
    (waits : joiner.Waits (children + 1) callback) :
    joiner.spawn.Waits (children + 2) callback :=
  ⟨congrArg Nat.succ waits.1, waits.2⟩

end CallbackJoiner

end MojoMedia.Framework
