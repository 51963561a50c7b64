import Mathlib.Data.List.Basic
import Mathlib.Tactic.Common

set_option autoImplicit false

-- A program that does not look at whether an allocation has returned null writes to the buffer
-- all the same.
namespace NullableBuffers

-- A null buffer has no contents. `nullWritten` records whether it was written through.
structure Buffer (α : Type) where
  contents : Option (List α)
  nullWritten : Bool := false
  deriving Repr, DecidableEq

namespace Buffer

variable {α : Type}

def allocate (granted : Bool) (contents : List α) : Buffer α :=
  { contents := if granted then some contents else none }

def write (buffer : Buffer α) (position : Nat) (value : α) : Buffer α :=
  match buffer.contents with
  | some contents => { buffer with contents := some (contents.set position value) }
  | none => { buffer with nullWritten := true }

def writeAll (buffer : Buffer α) (writes : List (Nat × α)) : Buffer α :=
  writes.foldl (fun buffer entry => buffer.write entry.1 entry.2) buffer

theorem writeAll_cons (buffer : Buffer α) (entry : Nat × α) (writes : List (Nat × α)) :
    buffer.writeAll (entry :: writes) = (buffer.write entry.1 entry.2).writeAll writes := rfl

theorem writeAll_null (writes : List (Nat × α)) (flag : Bool) :
    (Buffer.mk (none : Option (List α)) flag).writeAll writes =
      ⟨none, flag || !writes.isEmpty⟩ := by
  induction writes generalizing flag with
  | nil => simp [writeAll]
  | cons entry writes ih =>
    rw [writeAll_cons]
    simp [write, ih]

theorem writeAll_some (writes : List (Nat × α)) (contents : List α) (flag : Bool) :
    (Buffer.mk (some contents) flag).writeAll writes =
      ⟨some (writes.foldl (fun contents entry => contents.set entry.1 entry.2) contents),
        flag⟩ := by
  induction writes generalizing contents with
  | nil => rfl
  | cons entry writes ih => exact ih _

@[simp] theorem writeAll_allocate_nullWritten (granted : Bool) (contents : List α)
    (writes : List (Nat × α)) :
    ((allocate granted contents).writeAll writes).nullWritten = true ↔
      granted = false ∧ writes ≠ [] := by
  cases granted
  · simp [allocate, writeAll_null]
  · simp [allocate, writeAll_some]

theorem foldl_set_length (writes : List (Nat × α)) (contents : List α) :
    (writes.foldl (fun contents entry => contents.set entry.1 entry.2) contents).length =
      contents.length := by
  induction writes generalizing contents with
  | nil => rfl
  | cons entry writes ih => simpa using ih (contents.set entry.1 entry.2)

theorem foldl_set_forall {holds : α → Prop} (writes : List (Nat × α)) (contents : List α)
    (written : ∀ entry ∈ writes, holds entry.2) (before : ∀ value ∈ contents, holds value) :
    ∀ value ∈ writes.foldl (fun contents entry => contents.set entry.1 entry.2) contents,
      holds value := by
  induction writes generalizing contents with
  | nil => exact before
  | cons entry writes ih =>
    apply ih _ fun other member => written other (List.mem_cons_of_mem _ member)
    intro value member
    rcases List.mem_or_eq_of_mem_set member with kept | rfl
    · exact before value kept
    · exact written entry List.mem_cons_self

theorem foldl_set_getElem? (value : Nat → α) (writes : List (Nat × α)) (contents : List α)
    (agree : ∀ entry ∈ writes, entry.2 = value entry.1) (position : Nat)
    (inside : position < contents.length) :
    (writes.foldl (fun contents entry => contents.set entry.1 entry.2) contents)[position]? =
      if ∃ entry ∈ writes, entry.1 = position then some (value position)
      else contents[position]? := by
  induction writes generalizing contents with
  | nil => simp
  | cons entry writes ih =>
    have here : entry.2 = value entry.1 := agree entry List.mem_cons_self
    have rest := ih (contents.set entry.1 entry.2)
      (fun other member => agree other (List.mem_cons_of_mem _ member)) (by simpa using inside)
    simp only [List.foldl_cons, rest, List.exists_mem_cons_iff]
    by_cases written : ∃ other ∈ writes, other.1 = position
    · simp only [written, or_true, if_true]
    · simp only [written, or_false, if_false, List.getElem?_set, here]
      by_cases same : entry.1 = position
      · simp [same, inside]
      · simp [same]

theorem foldl_set_eq_map (value : Nat → α) (writes : List (Nat × α)) (contents : List α)
    (agree : ∀ entry ∈ writes, entry.2 = value entry.1)
    (covered : ∀ position < contents.length, ∃ entry ∈ writes, entry.1 = position) :
    writes.foldl (fun contents entry => contents.set entry.1 entry.2) contents =
      (List.range contents.length).map value := by
  apply List.ext_getElem?
  intro position
  by_cases inside : position < contents.length
  · rw [foldl_set_getElem? value writes contents agree position inside,
      if_pos (covered position inside)]
    simp [inside]
  · rw [List.getElem?_eq_none, List.getElem?_eq_none]
    · simpa using inside
    · rw [foldl_set_length]
      omega

end Buffer

end NullableBuffers
