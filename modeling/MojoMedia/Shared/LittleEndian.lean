import Mathlib.Algebra.GroupWithZero.Nat
import Mathlib.Tactic.Common

set_option autoImplicit false

namespace LittleEndian

def store : Nat → Nat → List UInt8
  | 0, _ => []
  | count + 1, value => UInt8.ofNat value :: store count (value / 256)

def load : List UInt8 → Nat
  | [] => 0
  | byte :: rest => byte.toNat + 256 * load rest

@[simp] theorem length_store (count value : Nat) : (store count value).length = count := by
  induction count generalizing value with
  | zero => rfl
  | succ count ih => rw [store, List.length_cons, ih]

theorem load_store (count value : Nat) : load (store count value) = value % 256 ^ count := by
  induction count generalizing value with
  | zero => simp [store, load, Nat.mod_one]
  | succ count ih =>
    have split : 256 ^ (count + 1) = 256 * 256 ^ count := Nat.pow_succ'
    have first : (UInt8.ofNat value).toNat = value % 256 := UInt8.toNat_ofNat'
    rw [store, load, ih, first, split, Nat.mod_mul]

end LittleEndian
