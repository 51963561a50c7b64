import MojoMedia.Common.LinearTransform
import MojoMedia.Common.BinaryGcd

set_option autoImplicit false

-- The template stops with a fault when it divides by zero, and when the fuel for its loop is used
-- up.
namespace MojoMedia.Words

variable {w : Nat}

inductive Fault where
  | dividedByZero
  | outOfFuel
  deriving Repr, DecidableEq

def remainder (a b : BitVec w) : Except Fault (BitVec w) :=
  if b = 0 then .error .dividedByZero else .ok (a % b)

def quotient (a b : BitVec w) : Except Fault (BitVec w) :=
  if b = 0 then .error .dividedByZero else .ok (a / b)

def euclidLoop (numerator denominator : BitVec w) :
    Nat → BitVec w → BitVec w → Except Fault (BitVec w × BitVec w)
  | 0, _, _ => .error .outOfFuel
  | fuel + 1, a, b => do
    let rest ← remainder a b
    if rest = 0 then
      let numerator ← quotient numerator b
      let denominator ← quotient denominator b
      .ok (numerator, denominator)
    else euclidLoop numerator denominator fuel b rest

def reduce (fuel : Nat) (numerator denominator : BitVec w) :
    Except Fault (BitVec w × BitVec w) :=
  if numerator = 0 then .ok (numerator, 1)
  else if numerator < denominator then
    euclidLoop numerator denominator fuel denominator numerator
  else euclidLoop numerator denominator fuel numerator denominator

def ratioReduce (fuel : Nat) (numerator denominator : BitVec 32) :
    Except Fault (BitVec 32 × BitVec 32) :=
  if denominator ≠ 0 then reduce fuel numerator denominator
  else .ok (if numerator ≠ 0 then 1 else 0, denominator)

theorem euclidLoop_succ (numerator denominator : BitVec w) (fuel : Nat) (a b : BitVec w)
    (nonzero : b ≠ 0) : euclidLoop numerator denominator (fuel + 1) a b =
      if a % b = 0 then .ok (numerator / b, denominator / b)
      else euclidLoop numerator denominator fuel b (a % b) := by
  have divided : remainder a b = .ok (a % b) := if_neg nonzero
  have first : quotient numerator b = .ok (numerator / b) := if_neg nonzero
  have second : quotient denominator b = .ok (denominator / b) := if_neg nonzero
  simp only [euclidLoop, divided, first, second, bind, Except.bind]

theorem euclidLoop_eq (numerator denominator : BitVec w) (fuel : Nat) (a b : BitVec w)
    (nonzero : b ≠ 0) (enough : b.toNat < fuel) :
    ∃ gcd : BitVec w, gcd.toNat = a.toNat.gcd b.toNat ∧
      euclidLoop numerator denominator fuel a b = .ok (numerator / gcd, denominator / gcd) := by
  induction fuel generalizing a b with
  | zero => exact absurd enough (Nat.not_lt_zero _)
  | succ fuel ih =>
    have positive := Nat.pos_of_ne_zero ((ne_zero_iff b).mp nonzero)
    have value : (a % b).toNat = a.toNat % b.toNat := BitVec.toNat_umod
    have less : a.toNat % b.toNat < b.toNat := Nat.mod_lt _ positive
    rw [euclidLoop_succ _ _ _ _ _ nonzero]
    by_cases last : a % b = 0
    · refine ⟨b, ?_, if_pos last⟩
      have divides : a.toNat % b.toNat = 0 := by rw [← value, last]; rfl
      rw [Nat.gcd_comm]
      exact (Nat.gcd_eq_left (Nat.dvd_of_mod_eq_zero divides)).symm
    · obtain ⟨gcd, common, goes⟩ := ih b (a % b) last (by omega)
      refine ⟨gcd, ?_, by rw [if_neg last, goes]⟩
      rw [common, value, Nat.gcd_comm, ← Nat.gcd_rec, Nat.gcd_comm]

theorem euclidLoop_divides (numerator denominator : BitVec w) (fuel : Nat) (a b : BitVec w)
    (nonzero : b ≠ 0) : euclidLoop numerator denominator fuel a b ≠ .error .dividedByZero := by
  induction fuel generalizing a b with
  | zero => simp [euclidLoop]
  | succ fuel ih =>
    rw [euclidLoop_succ _ _ _ _ _ nonzero]
    by_cases last : a % b = 0
    · rw [if_pos last]
      simp
    · rw [if_neg last]
      exact ih b (a % b) last

theorem reduce_divides (fuel : Nat) (numerator denominator : BitVec w)
    (valid : denominator ≠ 0) : reduce fuel numerator denominator ≠ .error .dividedByZero := by
  rw [reduce]
  by_cases zero : numerator = 0
  · rw [if_pos zero]
    simp
  rw [if_neg zero]
  split
  · exact euclidLoop_divides numerator denominator fuel denominator numerator zero
  · exact euclidLoop_divides numerator denominator fuel numerator denominator valid

theorem reduce_eq_quotients (fuel : Nat) (numerator denominator : BitVec w)
    (valid : denominator ≠ 0) (moving : numerator ≠ 0)
    (enough : numerator.toNat + denominator.toNat < fuel) :
    ∃ gcd : BitVec w, gcd.toNat = numerator.toNat.gcd denominator.toNat ∧
      reduce fuel numerator denominator = .ok (numerator / gcd, denominator / gcd) := by
  rw [reduce, if_neg moving]
  split
  · obtain ⟨gcd, common, loops⟩ :=
      euclidLoop_eq numerator denominator fuel denominator numerator moving (by omega)
    exact ⟨gcd, common.trans (Nat.gcd_comm _ _), loops⟩
  · exact euclidLoop_eq numerator denominator fuel numerator denominator valid (by omega)

theorem reduce_lowest (wide : 0 < w) (fuel : Nat) (numerator denominator : BitVec w)
    (valid : denominator ≠ 0) (enough : numerator.toNat + denominator.toNat < fuel) :
    ∃ terms, reduce fuel numerator denominator = .ok terms ∧
      LowestTerms numerator denominator terms ∧
      MojoMedia.reduce numerator.toNat denominator.toNat = (terms.1.toNat, terms.2.toNat) := by
  have positive := Nat.pos_of_ne_zero ((ne_zero_iff _).mp valid)
  rw [MojoMedia.reduce_eq _ _ positive]
  by_cases zero : numerator = 0
  · have none : numerator.toNat = 0 := by rw [zero]; rfl
    refine ⟨(numerator, 1), if_pos zero, ⟨?_, ?_, ?_⟩, ?_⟩
    · rw [toNat_one wide]
      exact Nat.coprime_one_right _
    · intro _
      rw [ne_zero_iff, toNat_one wide]
      exact Nat.one_ne_zero
    · rw [none, Nat.zero_mul, Nat.zero_mul]
    · rw [none, toNat_one wide, Nat.gcd_zero_left, Nat.zero_div, Nat.div_self positive]
  · obtain ⟨gcd, common, reduces⟩ :=
      reduce_eq_quotients fuel numerator denominator valid zero enough
    refine ⟨_, reduces, ?_, ?_⟩
    · apply lowestTerms_of_quotients (Nat.gcd_pos_of_pos_right _ positive)
      · rw [BitVec.toNat_udiv, common]
      · rw [BitVec.toNat_udiv, common]
    · rw [BitVec.toNat_udiv, BitVec.toNat_udiv, common]

theorem ratioReduce_zero (fuel : Nat) (numerator : BitVec 32) :
    ratioReduce fuel numerator 0 = .ok (if numerator ≠ 0 then 1 else 0, 0) :=
  if_neg (fun nonzero => nonzero rfl)

theorem ratioReduce_reduced (fuel : Nat) (numerator denominator : UInt32)
    (enough : numerator.toNat + denominator.toNat < fuel) :
    ratioReduce fuel numerator.toBitVec denominator.toBitVec =
      .ok ((Ratio.reduced numerator denominator).numerator.toBitVec,
        (Ratio.reduced numerator denominator).denominator.toBitVec) := by
  by_cases valid : denominator = 0
  · subst valid
    rw [Ratio.reduced, if_neg (fun nonzero => nonzero rfl)]
    refine (ratioReduce_zero fuel _).trans ?_
    by_cases zero : numerator = 0
    · rw [zero]
      rfl
    · have moving : numerator.toBitVec ≠ 0 := fun none => zero (UInt32.toBitVec_inj.mp none)
      rw [if_pos moving, if_pos zero]
      rfl
  · have nonzero : denominator.toBitVec ≠ 0 := fun none => valid (UInt32.toBitVec_inj.mp none)
    obtain ⟨terms, reduces, -, same⟩ :=
      reduce_lowest (by decide) fuel numerator.toBitVec denominator.toBitVec nonzero enough
    have values : MojoMedia.reduce numerator.toNat denominator.toNat =
        (terms.1.toNat, terms.2.toNat) := same
    rw [ratioReduce, if_pos nonzero, reduces, Ratio.reduced, if_pos valid, values]
    simp

def ReducesByEuclid (w : Nat) : Prop :=
  ∀ numerator denominator : BitVec w, denominator ≠ 0 →
    (∀ fuel, reduce fuel numerator denominator ≠ .error .dividedByZero) ∧
    ∃ enough, ∀ fuel, enough ≤ fuel →
      ∃ terms, reduce fuel numerator denominator = .ok terms ∧
        LowestTerms numerator denominator terms ∧ (numerator = 0 → terms = (0, 1))

theorem reducesByEuclid (w : Nat) (wide : 0 < w) : ReducesByEuclid w := by
  intro numerator denominator valid
  refine ⟨fun fuel => reduce_divides fuel numerator denominator valid,
    numerator.toNat + denominator.toNat + 1, ?_⟩
  intro fuel enough
  obtain ⟨terms, reduces, lowest, -⟩ :=
    reduce_lowest wide fuel numerator denominator valid enough
  refine ⟨terms, reduces, lowest, ?_⟩
  intro zero
  rw [reduce, if_pos zero, zero] at reduces
  exact (Except.ok.inj reduces).symm

theorem euclid_reduces :
    ReducesByEuclid 32 ∧ ReducesByEuclid 64 ∧
      ∀ fuel numerator, ratioReduce fuel numerator 0 = .ok (if numerator ≠ 0 then 1 else 0, 0) :=
  ⟨reducesByEuclid 32 (by decide), reducesByEuclid 64 (by decide), ratioReduce_zero⟩

theorem euclid_reduces_twelve_by_eighteen :
    (18 : BitVec 64) ≠ 0 ∧ reduce 4 (12 : BitVec 64) 18 = .ok (2, 3) ∧
      ∀ fuel, reduce fuel (12 : BitVec 64) 18 ≠ .error .dividedByZero :=
  ⟨by decide, by decide, (euclid_reduces.2.1 12 18 (by decide)).1⟩

end MojoMedia.Words
