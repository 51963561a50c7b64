import MojoMedia.Common.TimelineRateReduced
import Mathlib.Data.UInt

set_option autoImplicit false

-- The template runs on words of some width, by loops that nothing but their guards ends. Every
-- loop has fuel, and `none` is a loop that has run out of it.
namespace MojoMedia.Words

variable {w : Nat}

def stripTwos : Nat → BitVec w → Option (BitVec w)
  | 0, _ => none
  | fuel + 1, a => if a &&& 1 = 0 then stripTwos fuel (a >>> (1 : Nat)) else some a

def countTwos : Nat → BitVec w → BitVec w → UInt8 → Option (BitVec w × BitVec w × UInt8)
  | 0, _, _, _ => none
  | fuel + 1, a, b, twos =>
    if (a ||| b) &&& 1 = 0 then countTwos fuel (a >>> (1 : Nat)) (b >>> (1 : Nat)) (twos + 1)
    else some (a, b, twos)

def subtractUntilZero (inner : Nat) : Nat → BitVec w → BitVec w → Option (BitVec w)
  | 0, _, _ => none
  | fuel + 1, a, b => do
    let b ← stripTwos inner b
    let (a, b) := if b < a then (b, a) else (a, b)
    let b := b - a
    if b ≠ 0 then subtractUntilZero inner fuel a b else some a

def binaryGcd (fuel : Nat) (a b : BitVec w) : Option (BitVec w) :=
  if a = 0 then some b
  else if b = 0 then some a
  else do
    let (a, b, twos) ← countTwos fuel a b 0
    let a ← stripTwos fuel a
    let a ← subtractUntilZero fuel fuel a b
    some (a <<< twos.toNat)

def reduceRatio (fuel : Nat) (numerator denominator : BitVec w) :
    Option (BitVec w × BitVec w) := do
  let gcd ← binaryGcd fuel numerator denominator
  if gcd = 0 then some (numerator, 1)
  else if gcd = 1 then some (numerator, denominator)
  else some (numerator / gcd, denominator / gcd)

theorem toNat_one (wide : 0 < w) : (1 : BitVec w).toNat = 1 :=
  Nat.mod_eq_of_lt (Nat.one_lt_two_pow (Nat.ne_of_gt wide))

theorem even_iff (wide : 0 < w) (a : BitVec w) : a &&& 1 = 0 ↔ a.toNat % 2 = 0 := by
  rw [← BitVec.toNat_inj, BitVec.toNat_and, toNat_one wide, Nat.and_one_is_mod]
  rfl

theorem toNat_half (a : BitVec w) : (a >>> (1 : Nat)).toNat = a.toNat / 2 := by
  rw [BitVec.toNat_ushiftRight, Nat.shiftRight_one]

theorem ne_zero_iff (a : BitVec w) : a ≠ 0 ↔ a.toNat ≠ 0 := by
  rw [ne_eq, ← BitVec.toNat_inj]
  rfl

theorem toNat_stays {value : Nat} {bound : BitVec w} (small : value ≤ bound.toNat) :
    (BitVec.ofNat w value).toNat = value :=
  Nat.mod_eq_of_lt (Nat.lt_of_le_of_lt small bound.isLt)

theorem stripTwos_eq (wide : 0 < w) (fuel : Nat) (a : BitVec w) (nonzero : a.toNat ≠ 0)
    (enough : a.toNat < fuel) : stripTwos fuel a = some (.ofNat w (dropTwos a.toNat)) := by
  induction fuel generalizing a with
  | zero => exact absurd enough (Nat.not_lt_zero _)
  | succ fuel ih =>
    rw [stripTwos, dropTwos]
    by_cases even : a.toNat % 2 = 0
    · have half := toNat_half a
      rw [if_pos ((even_iff wide a).mpr even), dif_pos ⟨nonzero, even⟩,
        ih (a >>> (1 : Nat)) (by omega) (by omega), half]
    · rw [if_neg fun zero => even ((even_iff wide a).mp zero),
        dif_neg fun both => even both.2, BitVec.ofNat_toNat, BitVec.setWidth_eq]

theorem countTwos_eq (wide : 0 < w) (fuel : Nat) (a b : BitVec w) (twos : Nat)
    (nonzero : a.toNat ≠ 0) (enough : a.toNat < fuel) :
    countTwos fuel a b (.ofNat twos) =
      some (.ofNat w (commonTwos a.toNat b.toNat twos).1,
        .ofNat w (commonTwos a.toNat b.toNat twos).2.1,
        .ofNat (commonTwos a.toNat b.toNat twos).2.2) := by
  induction fuel generalizing a b twos with
  | zero => exact absurd enough (Nat.not_lt_zero _)
  | succ fuel ih =>
    have isEven : (a ||| b) &&& 1 = 0 ↔ (a.toNat ||| b.toNat) % 2 = 0 := by
      rw [even_iff wide, BitVec.toNat_or]
    rw [countTwos, commonTwos]
    by_cases even : (a.toNat ||| b.toNat) % 2 = 0
    · have half := toNat_half a
      have aEven := ((or_even _ _).mp even).1
      have next : UInt8.ofNat twos + 1 = UInt8.ofNat (twos + 1) := (UInt8.ofNat_add twos 1).symm
      rw [if_pos (isEven.mpr even), dif_pos ⟨nonzero, even⟩, next,
        ih (a >>> (1 : Nat)) (b >>> (1 : Nat)) (twos + 1) (by omega) (by omega),
        half, toNat_half b]
    · rw [if_neg fun zero => even (isEven.mp zero), dif_neg fun both => even both.2,
        BitVec.ofNat_toNat, BitVec.setWidth_eq, BitVec.ofNat_toNat, BitVec.setWidth_eq]

theorem subtractUntilZero_eq (wide : 0 < w) (inner fuel : Nat) (a b : BitVec w)
    (aOdd : a.toNat % 2 = 1) (bNonzero : b.toNat ≠ 0) (enough : a.toNat + b.toNat < fuel)
    (within : a.toNat + b.toNat < inner) :
    subtractUntilZero inner fuel a b = some (.ofNat w (subtractTwos a.toNat b.toNat)) := by
  induction fuel generalizing a b with
  | zero => exact absurd enough (Nat.not_lt_zero _)
  | succ fuel ih =>
    have small := dropTwos_le b.toNat
    have isOdd := dropTwos_odd b.toNat bNonzero
    have stripped := stripTwos_eq wide inner b bNonzero (by omega)
    obtain ⟨odd, named⟩ : ∃ odd, odd = BitVec.ofNat w (dropTwos b.toNat) := ⟨_, rfl⟩
    have value : odd.toNat = dropTwos b.toNat := named ▸ toNat_stays small
    rw [subtractUntilZero, stripped, ← named, subtractTwos, ← value]
    by_cases swap : odd < a
    · have less : odd.toNat < a.toNat := swap
      have difference : (a - odd).toNat = a.toNat - odd.toNat :=
        BitVec.toNat_sub_of_le (BitVec.le_of_lt swap)
      have again : a - odd ≠ 0 := (ne_zero_iff _).mpr (by omega)
      simp only [Option.bind_eq_bind, Option.bind_some, if_pos swap, if_pos again]
      rw [dif_pos less, dif_pos (by omega), ← difference]
      exact ih odd (a - odd) (by omega) (by omega) (by omega) (by omega)
    · have order : a ≤ odd := BitVec.not_lt.mp swap
      have most : a.toNat ≤ odd.toNat := order
      have difference : (odd - a).toNat = odd.toNat - a.toNat := BitVec.toNat_sub_of_le order
      have same := ne_zero_iff (odd - a)
      simp only [Option.bind_eq_bind, Option.bind_some, if_neg swap]
      rw [dif_neg (Nat.not_lt.mpr most)]
      by_cases again : odd - a = 0
      · have equal : ¬ (a.toNat ≠ 0 ∧ odd.toNat - a.toNat ≠ 0) := by
          intro both
          exact same.mpr (difference ▸ both.2) again
        rw [if_neg (not_not.mpr again), dif_neg equal, BitVec.ofNat_toNat, BitVec.setWidth_eq]
      · have more := same.mp again
        rw [if_pos again, dif_pos (by omega), ← difference]
        exact ih a (odd - a) aOdd more (by omega) (by omega)

theorem commonTwos_le (a b twos : Nat) :
    (commonTwos a b twos).1 ≤ a ∧ (commonTwos a b twos).2.1 ≤ b := by
  induction a, b, twos using commonTwos.induct with
  | case1 a b twos even ih =>
    rw [commonTwos, dif_pos even]
    omega
  | case2 a b twos odd =>
    rw [commonTwos, dif_neg odd]
    exact ⟨Nat.le_refl _, Nat.le_refl _⟩

theorem shifted_back (narrow : w ≤ 256) {a : BitVec w} {common gcd count : Nat}
    (product : common * 2 ^ count = gcd) (positive : 0 < gcd) (small : gcd ≤ a.toNat) :
    BitVec.ofNat w common <<< (UInt8.ofNat count).toNat = .ofNat w gcd := by
  have factor : 2 ^ count ≤ gcd :=
    Nat.le_of_dvd positive ⟨common, by rw [← product, Nat.mul_comm]⟩
  have fits : count < w := by
    apply (Nat.pow_lt_pow_iff_right Nat.one_lt_two).mp
    exact Nat.lt_of_le_of_lt (Nat.le_trans factor small) a.isLt
  have counted : (UInt8.ofNat count).toNat = count := by
    rw [UInt8.toNat_ofNat']
    exact Nat.mod_eq_of_lt (by omega)
  rw [counted, ← BitVec.toNat_inj, BitVec.toNat_shiftLeft, Nat.shiftLeft_eq, BitVec.toNat_ofNat,
    BitVec.toNat_ofNat, Nat.mod_mul_mod, product]

theorem stripped_gcd (wide : 0 < w) (fuel : Nat) (a b : BitVec w) (aNonzero : a.toNat ≠ 0)
    (bNonzero : b.toNat ≠ 0) (odd : a.toNat % 2 = 1 ∨ b.toNat % 2 = 1)
    (enough : a.toNat + b.toNat < fuel) :
    ((stripTwos fuel a).bind fun a => subtractUntilZero fuel fuel a b) =
      some (.ofNat w (a.toNat.gcd b.toNat)) := by
  have less := dropTwos_le a.toNat
  have oddValue : (BitVec.ofNat w (dropTwos a.toNat)).toNat = dropTwos a.toNat :=
    toNat_stays less
  have isOdd := dropTwos_odd a.toNat aNonzero
  have subtracted := subtractUntilZero_eq wide fuel fuel (.ofNat w (dropTwos a.toNat)) b
    (by omega) bNonzero (by omega) (by omega)
  have gcds : subtractTwos (dropTwos a.toNat) b.toNat = a.toNat.gcd b.toNat := by
    rw [subtractTwos_eq_gcd _ _ isOdd bNonzero]
    rcases odd with aOdd | bOdd
    · rw [dropTwos_of_odd _ aOdd]
    · rw [Nat.gcd_comm, gcd_dropTwos bOdd, Nat.gcd_comm]
  rw [oddValue, gcds] at subtracted
  rw [stripTwos_eq wide fuel a aNonzero (by omega), Option.bind_some, subtracted]

theorem binaryGcd_eq (wide : 0 < w) (narrow : w ≤ 256) (a b : BitVec w) (fuel : Nat)
    (enough : a.toNat + b.toNat < fuel) :
    binaryGcd fuel a b = some (.ofNat w (a.toNat.gcd b.toNat)) := by
  rw [binaryGcd]
  by_cases aZero : a = 0
  · rw [if_pos aZero, aZero, BitVec.ofNat_eq_ofNat, BitVec.toNat_zero, Nat.gcd_zero_left,
      BitVec.ofNat_toNat, BitVec.setWidth_eq]
  by_cases bZero : b = 0
  · rw [if_neg aZero, if_pos bZero, bZero, BitVec.ofNat_eq_ofNat, BitVec.toNat_zero,
      Nat.gcd_zero_right, BitVec.ofNat_toNat, BitVec.setWidth_eq]
  have aPositive := (ne_zero_iff a).mp aZero
  have bPositive := (ne_zero_iff b).mp bZero
  have counts := countTwos_eq wide fuel a b 0 aPositive (by omega)
  obtain ⟨aLeft, bLeft, odd, common⟩ := commonTwos_spec a.toNat b.toNat 0 aPositive bPositive
  obtain ⟨aLess, bLess⟩ := commonTwos_le a.toNat b.toNat 0
  generalize commonTwos a.toNat b.toNat 0 = state at counts aLeft bLeft odd common aLess bLess
  obtain ⟨aRest, bRest, count⟩ := state
  dsimp only at counts aLeft bLeft odd common aLess bLess
  have aValue := toNat_stays aLess
  have bValue := toNat_stays bLess
  have found := stripped_gcd wide fuel (.ofNat w aRest) (.ofNat w bRest) (by omega) (by omega)
    (by rw [aValue, bValue]; exact odd) (by omega)
  rw [aValue, bValue] at found
  rw [if_neg aZero, if_neg bZero]
  simp only [show countTwos fuel a b 0 = _ from counts, Option.bind_eq_bind, Option.bind_some,
    ← Option.bind_assoc, found]
  rw [Nat.pow_zero, Nat.mul_one] at common
  exact congrArg some (shifted_back narrow common
    (Nat.gcd_pos_of_pos_left _ (Nat.pos_of_ne_zero aPositive))
    (Nat.le_of_dvd (Nat.pos_of_ne_zero aPositive) (Nat.gcd_dvd_left _ _)))

structure LowestTerms (numerator denominator : BitVec w) (terms : BitVec w × BitVec w) : Prop where
  coprime : terms.1.toNat.Coprime terms.2.toNat
  nonzero : denominator ≠ 0 → terms.2 ≠ 0
  value : terms.1.toNat * denominator.toNat = numerator.toNat * terms.2.toNat

theorem lowestTerms_of_quotients {numerator denominator : BitVec w} {terms : BitVec w × BitVec w}
    (positive : 0 < numerator.toNat.gcd denominator.toNat)
    (first : terms.1.toNat = numerator.toNat / numerator.toNat.gcd denominator.toNat)
    (second : terms.2.toNat = denominator.toNat / numerator.toNat.gcd denominator.toNat) :
    LowestTerms numerator denominator terms where
  coprime := by
    rw [first, second]
    exact Nat.coprime_div_gcd_div_gcd positive
  nonzero := by
    intro nonzero
    have divides := Nat.gcd_dvd_right numerator.toNat denominator.toNat
    have large := Nat.le_of_dvd (Nat.pos_of_ne_zero ((ne_zero_iff _).mp nonzero)) divides
    rw [ne_zero_iff, second]
    exact Nat.ne_of_gt (Nat.div_pos large positive)
  value := by
    rw [first, second, ← Nat.mul_div_right_comm (Nat.gcd_dvd_left _ _),
      ← Nat.mul_div_assoc _ (Nat.gcd_dvd_right _ _)]

theorem gcd_lt (a b : BitVec w) : a.toNat.gcd b.toNat < 2 ^ w := by
  by_cases zero : a.toNat = 0
  · rw [zero, Nat.gcd_zero_left]
    exact b.isLt
  · exact Nat.lt_of_le_of_lt (Nat.gcd_le_left _ (Nat.pos_of_ne_zero zero)) a.isLt

theorem reduceRatio_lowest (wide : 0 < w) (narrow : w ≤ 256) (numerator denominator : BitVec w)
    (fuel : Nat) (enough : numerator.toNat + denominator.toNat < fuel) :
    ∃ terms, reduceRatio fuel numerator denominator = some terms ∧
      LowestTerms numerator denominator terms ∧
      MojoMedia.reduceRatio numerator.toNat denominator.toNat =
        (terms.1.toNat, terms.2.toNat) := by
  have computed := binaryGcd_eq wide narrow numerator denominator fuel enough
  obtain ⟨gcd, named⟩ :
      ∃ gcd, gcd = BitVec.ofNat w (numerator.toNat.gcd denominator.toNat) := ⟨_, rfl⟩
  have value : gcd.toNat = numerator.toNat.gcd denominator.toNat :=
    named ▸ Nat.mod_eq_of_lt (gcd_lt numerator denominator)
  rw [← named] at computed
  simp only [reduceRatio, computed, Option.bind_eq_bind, Option.bind_some,
    MojoMedia.reduceRatio, binaryGcd_eq_gcd, ← value]
  by_cases zero : gcd = 0
  · have none : gcd.toNat = 0 := by rw [zero]; rfl
    obtain ⟨noNumerator, noDenominator⟩ := Nat.gcd_eq_zero_iff.mp (value.symm.trans none)
    refine ⟨(numerator, 1), if_pos zero, ⟨?_, ?_, ?_⟩, ?_⟩
    · rw [toNat_one wide]
      exact Nat.coprime_one_right _
    · intro _
      rw [ne_zero_iff, toNat_one wide]
      exact Nat.one_ne_zero
    · rw [noNumerator, noDenominator, Nat.mul_zero, Nat.zero_mul]
    · rw [if_pos none, toNat_one wide]
  have some := (ne_zero_iff gcd).mp zero
  have positive := Nat.pos_of_ne_zero (value ▸ some)
  by_cases one : gcd = 1
  · have trivially : gcd.toNat = 1 := by rw [one, toNat_one wide]
    refine ⟨(numerator, denominator), by rw [if_neg zero, if_pos one], ?_, ?_⟩
    · apply lowestTerms_of_quotients positive
      · rw [← value, trivially, Nat.div_one]
      · rw [← value, trivially, Nat.div_one]
    · rw [if_neg some, if_pos trivially]
  · have more : gcd.toNat ≠ 1 := by
      rw [← toNat_one wide, ne_eq, BitVec.toNat_inj]
      exact one
    refine ⟨(numerator / gcd, denominator / gcd), by rw [if_neg zero, if_neg one], ?_, ?_⟩
    · apply lowestTerms_of_quotients positive
      · rw [BitVec.toNat_udiv, value]
      · rw [BitVec.toNat_udiv, value]
    · rw [if_neg some, if_neg more, BitVec.toNat_udiv, BitVec.toNat_udiv]

def ReducesByGcd (w : Nat) : Prop :=
  ∀ a b : BitVec w, ∃ enough, ∀ fuel, enough ≤ fuel →
    (∃ gcd, binaryGcd fuel a b = some gcd ∧ gcd.toNat = a.toNat.gcd b.toNat) ∧
      ∃ terms, reduceRatio fuel a b = some terms ∧ LowestTerms a b terms

theorem reducesByGcd (wide : 0 < w) (narrow : w ≤ 256) : ReducesByGcd w := by
  intro a b
  refine ⟨a.toNat + b.toNat + 1, fun fuel enough => ⟨?_, ?_⟩⟩
  · exact ⟨_, binaryGcd_eq wide narrow a b fuel enough, Nat.mod_eq_of_lt (gcd_lt a b)⟩
  · obtain ⟨terms, reduces, lowest, -⟩ := reduceRatio_lowest wide narrow a b fuel enough
    exact ⟨terms, reduces, lowest⟩

theorem binaryGcd_and_reduceRatio : ReducesByGcd 32 ∧ ReducesByGcd 64 :=
  ⟨reducesByGcd (by decide) (by decide), reducesByGcd (by decide) (by decide)⟩

example : binaryGcd 64 (48 : BitVec 32) 180 = some 12 := by decide

end MojoMedia.Words
