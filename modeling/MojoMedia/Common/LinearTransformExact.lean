import MojoMedia.Common.LinearTransform
import MojoMedia.Shared.LongDivision

set_option autoImplicit false

namespace MojoMedia

open MachineInt

def productHigh (value numerator : Nat) : Nat :=
  value / 2 ^ 32 * numerator + value % 2 ^ 32 * numerator / 2 ^ 32

def productLow (value numerator : Nat) : Nat := value % 2 ^ 32 * numerator % 2 ^ 32

theorem product_eq (value numerator : Nat) :
    value * numerator = productHigh value numerator * 2 ^ 32 + productLow value numerator := by
  have digits : value * numerator =
      value / 2 ^ 32 * numerator * 2 ^ 32 + value % 2 ^ 32 * numerator := by
    calc value * numerator
      _ = (2 ^ 32 * (value / 2 ^ 32) + value % 2 ^ 32) * numerator := by rw [Nat.div_add_mod]
      _ = value / 2 ^ 32 * numerator * 2 ^ 32 + value % 2 ^ 32 * numerator := by ring
  rw [digits, productHigh, productLow]
  omega

theorem product_words (value numerator : Nat) (small : value < 2 ^ 64)
    (numeratorSmall : numerator < 2 ^ 32) :
    u64 (value % 2 ^ 32 * numerator) = value % 2 ^ 32 * numerator ∧
      u64 (u64 (value / 2 ^ 32 * numerator) + value % 2 ^ 32 * numerator / 2 ^ 32) =
        productHigh value numerator := by
  have highProduct : value / 2 ^ 32 * numerator ≤ (2 ^ 32 - 1) * (2 ^ 32 - 1) :=
    Nat.mul_le_mul (by omega) (by omega)
  have lowProduct : value % 2 ^ 32 * numerator ≤ (2 ^ 32 - 1) * (2 ^ 32 - 1) :=
    Nat.mul_le_mul (by omega) (by omega)
  refine ⟨u64_of_lt _ (by omega), ?_⟩
  rw [u64_of_lt (value / 2 ^ 32 * numerator) (by omega), u64_of_lt _ (by omega)]
  rfl

theorem pack_digits (first second rest : Nat) (roundUp : Bool) (firstSmall : first < 2 ^ 32)
    (secondSmall : second < 2 ^ 32) :
    (let out := u64 (first * 2 ^ 32) ||| second
      if rest ≠ 0 ∧ roundUp then
        let out := u64 (out + 1)
        if out = 0 then none else some out
      else some out) =
    (let out := if rest ≠ 0 ∧ roundUp then first * 2 ^ 32 + second + 1
        else first * 2 ^ 32 + second
      if out < 2 ^ 64 then some out else none) := by
  simp only
  rw [u64_of_lt (first * 2 ^ 32) (by omega), two_digits_or first second secondSmall]
  by_cases up : rest ≠ 0 ∧ roundUp
  · rw [if_pos up, if_pos up]
    by_cases fits : first * 2 ^ 32 + second + 1 < 2 ^ 64
    · rw [u64_of_lt _ fits, if_neg (by omega), if_pos fits]
    · have wrapped : first * 2 ^ 32 + second + 1 = 2 ^ 64 := by omega
      rw [wrapped, if_pos (by decide), if_neg (Nat.lt_irrefl _)]
  · rw [if_neg up, if_neg up, if_pos (by omega)]

theorem scaleU64ToU64_eq (value numerator denominator : Nat) (roundUp : Bool)
    (small : value < 2 ^ 64) (numeratorSmall : numerator < 2 ^ 32)
    (denominatorSmall : denominator < 2 ^ 32) (positive : 0 < denominator) :
    scaleU64ToU64 value numerator denominator roundUp =
      if quotient (value * numerator) denominator roundUp < 2 ^ 64 then
        some (quotient (value * numerator) denominator roundUp) else none := by
  obtain ⟨tmp1, tmp2⟩ := product_words value numerator small numeratorSmall
  have lowSmall : productLow value numerator < 2 ^ 32 := Nat.mod_lt _ (by decide)
  have low : value % 2 ^ 32 * numerator % 2 ^ 32 = productLow value numerator := rfl
  simp only [scaleU64ToU64, tmp1, tmp2, low]
  rw [quotient, product_eq value numerator]
  generalize productHigh value numerator = high
  generalize productLow value numerator = low at lowSmall
  rw [div_two_digits _ high low denominator positive, mod_two_digits _ high low denominator]
  have digit := next_digit_lt _ high low denominator positive lowSmall
  have rest := Nat.mod_lt high positive
  rw [u32_of_lt (high % denominator) (by omega), Nat.or_comm low, two_digits_or _ low lowSmall]
  have last := Nat.mod_lt (high % denominator * 2 ^ 32 + low) positive
  rw [u32_of_lt _ (by omega)]
  by_cases overflow : denominator ≤ high / 2 ^ 32
  · rw [if_pos overflow]
    have first : 2 ^ 32 ≤ high / denominator := by
      rw [Nat.le_div_iff_mul_le positive]
      omega
    have above : 2 ^ 64 ≤ high / denominator * 2 ^ 32 +
        (high % denominator * 2 ^ 32 + low) / denominator :=
      Nat.le_add_right_of_le (Nat.mul_le_mul_right (2 ^ 32) first)
    by_cases up : (high % denominator * 2 ^ 32 + low) % denominator ≠ 0 ∧ roundUp
    · rw [if_pos up, if_neg (Nat.not_lt.mpr (Nat.le_succ_of_le above))]
    · rw [if_neg up, if_neg (Nat.not_lt.mpr above)]
  · rw [if_neg overflow]
    have first : high / denominator < 2 ^ 32 := by
      rw [Nat.div_lt_iff_lt_mul positive]
      omega
    exact pack_digits _ _ _ roundUp first digit

def inS64 (n : Int) : Prop := -2 ^ 63 ≤ n ∧ n < 2 ^ 63

instance (n : Int) : Decidable (inS64 n) := inferInstanceAs (Decidable (_ ∧ _))

theorem toInt_sub (a b : Int64) (inside : inS64 (a.toInt - b.toInt)) :
    (a - b).toInt = a.toInt - b.toInt := by
  rw [Int64.toInt_sub]
  exact s64_of_lt _ inside.1 inside.2

theorem sumCheckOvfl_eq (a b : Int) (aRange : inS64 a) (bRange : inS64 b) :
    sumCheckOvfl a b = if inS64 (a + b) then some (a + b) else none := by
  by_cases inside : inS64 (a + b)
  · have same : s64 (a + b) = a + b := s64_of_lt _ inside.1 inside.2
    rw [if_pos inside, sumCheckOvfl, same, if_neg]
    simp only [decide_eq_decide, ne_eq]
    omega
  · -- A sum that wraps has the other sign than both of its parts.
    obtain ⟨turns, wrapped⟩ := s64_congr (a + b)
    have range := s64_range (a + b)
    unfold inS64 at aRange bRange inside
    rw [if_neg (by unfold inS64; exact inside), sumCheckOvfl, if_pos]
    simp only [decide_eq_decide, ne_eq]
    omega

theorem abs64_nonneg (x : Int) (positive : 0 ≤ x) : abs64 x = x := by
  rw [abs64, if_neg (Int.not_lt.mpr positive)]

theorem abs64_neg (x : Int) (negative : x < 0) (above : -2 ^ 63 < x) : abs64 x = -x := by
  rw [abs64, if_pos negative, s64_of_lt _ (by omega) (by omega)]

def scaledExact (val basis1 : Int) (multiplier divisor : Nat) : Int :=
  (val - basis1) * multiplier / divisor

-- Representable sums that the code turns down: it asks for one more than is needed below zero,
-- and `ABS` of the least integer is negative.
def turnedDown (val basis1 basis2 scaled : Int) : Prop :=
  (val < basis1 ∧ 0 ≤ basis2 ∧ scaled + basis2 = -2 ^ 63) ∨
    (basis1 ≤ val ∧ basis2 = -2 ^ 63 ∧ 2 ^ 63 ≤ scaled ∧ scaled < 2 ^ 64)

instance (val basis1 basis2 scaled : Int) : Decidable (turnedDown val basis1 basis2 scaled) :=
  inferInstanceAs (Decidable (_ ∨ _))

theorem scaledExact_of_lt (val basis1 : Int) (multiplier divisor : Nat) (positive : 0 < divisor)
    (below : val < basis1) : scaledExact val basis1 multiplier divisor =
      -(quotient ((basis1 - val).toNat * multiplier) divisor true : Int) := by
  have magnitude : ((basis1 - val).toNat : Int) = basis1 - val := Int.toNat_of_nonneg (by omega)
  rw [quotient_up _ _ positive, scaledExact]
  push_cast
  rw [magnitude]
  congr 1
  ring

theorem scaledExact_of_ge (val basis1 : Int) (multiplier divisor : Nat) (above : basis1 ≤ val) :
    scaledExact val basis1 multiplier divisor =
      (quotient ((val - basis1).toNat * multiplier) divisor false : Int) := by
  have magnitude : ((val - basis1).toNat : Int) = val - basis1 := Int.toNat_of_nonneg (by omega)
  rw [quotient_down, scaledExact]
  push_cast
  rw [magnitude]

def addBasis (isNeg : Bool) (scaled : Nat) (basis2 : Int) : Option Int :=
  let signed : Int := if isNeg then -scaled else scaled
  if 2 ^ 63 ≤ scaled then
    if isNeg ∧ basis2 < 0 then none
    else if ¬ isNeg ∧ 0 ≤ basis2 then none
    else if abs64 basis2 ≤ ((scaled - 2 ^ 63 : Nat) : Int) then none
    else some (s64 (signed + basis2))
  else sumCheckOvfl (s64 signed) basis2

theorem addBasis_neg (scaled : Nat) (basis2 : Int) (range : inS64 basis2) :
    addBasis true scaled basis2 =
      if inS64 (-scaled + basis2) ∧ ¬ (0 ≤ basis2 ∧ -scaled + basis2 = -2 ^ 63) then
        some (-scaled + basis2) else none := by
  unfold inS64 at range
  simp only [addBasis, if_true, true_and, not_true_eq_false, false_and, if_false]
  by_cases large : 2 ^ 63 ≤ scaled
  · rw [if_pos large]
    by_cases under : basis2 < 0
    · rw [if_pos under, if_neg (by unfold inS64; omega)]
    · rw [if_neg under, abs64_nonneg basis2 (Int.not_lt.mp under)]
      by_cases enough : basis2 ≤ ((scaled - 2 ^ 63 : Nat) : Int)
      · rw [if_pos enough, if_neg (by unfold inS64; omega)]
      · rw [if_neg enough, if_pos (by unfold inS64; omega), s64_of_lt _ (by omega) (by omega)]
  · rw [if_neg large, s64_of_lt _ (by omega) (by omega),
      sumCheckOvfl_eq _ _ (by unfold inS64; omega) range]
    by_cases inside : inS64 (-scaled + basis2)
    · rw [if_pos inside, if_pos ⟨inside, by omega⟩]
    · rw [if_neg inside, if_neg (fun both => inside both.1)]

theorem addBasis_nonneg (scaled : Nat) (basis2 : Int) (range : inS64 basis2) :
    addBasis false scaled basis2 =
      if inS64 (scaled + basis2) ∧ ¬ (basis2 = -2 ^ 63 ∧ 2 ^ 63 ≤ scaled) then
        some (scaled + basis2) else none := by
  unfold inS64 at range
  simp only [addBasis, Bool.false_eq_true, if_false, false_and, not_false_eq_true, true_and]
  by_cases large : 2 ^ 63 ≤ scaled
  · rw [if_pos large]
    by_cases upward : 0 ≤ basis2
    · rw [if_pos upward, if_neg (by unfold inS64; omega)]
    · rw [if_neg upward]
      by_cases least : basis2 = -2 ^ 63
      · have wrapped : abs64 basis2 = -2 ^ 63 := by rw [least]; decide
        rw [wrapped, if_pos (by omega), if_neg (by omega)]
      · rw [abs64_neg basis2 (by omega) (by omega)]
        by_cases enough : -basis2 ≤ ((scaled - 2 ^ 63 : Nat) : Int)
        · rw [if_pos enough, if_neg (by unfold inS64; omega)]
        · rw [if_neg enough, if_pos (by unfold inS64; omega), s64_of_lt _ (by omega) (by omega)]
  · rw [if_neg large, s64_of_lt _ (by omega) (by omega),
      sumCheckOvfl_eq _ _ (by unfold inS64; omega) range]
    by_cases inside : inS64 (scaled + basis2)
    · rw [if_pos inside, if_pos ⟨inside, by omega⟩]
    · rw [if_neg inside, if_neg (fun both => inside both.1)]

-- The fraction is inverted before the division, so only its two sides matter.
theorem linearTransform_eq_bind (val basis1 : Int) (numerator denominator : Nat) (invert : Bool)
    (basis2 : Int) (basis1Range : inS64 basis1) (valRange : inS64 val) :
    linearTransformS64ToS64 val basis1 numerator denominator invert basis2 =
      (scaleU64ToU64 (val - basis1).natAbs (if invert then denominator else numerator)
        (if invert then numerator else denominator) (decide (val < basis1))).bind
        (addBasis (decide (val < basis1)) · basis2) := by
  unfold inS64 at basis1Range valRange
  have magnitude : u64 (if val < basis1 then basis1 - val else val - basis1).toNat =
      (val - basis1).natAbs := by
    by_cases below : val < basis1
    · rw [if_pos below, u64_of_lt _ (by omega)]
      omega
    · rw [if_neg below, u64_of_lt _ (by omega)]
      omega
  simp only [linearTransformS64ToS64, decide_eq_true_eq, magnitude]
  cases scaleU64ToU64 (val - basis1).natAbs (if invert then denominator else numerator)
      (if invert then numerator else denominator) (decide (val < basis1)) with
  | none => rfl
  | some scaled => simp only [Option.bind_some, addBasis, decide_eq_true_eq]

theorem linearTransform_exact (val basis1 : Int) (numerator denominator : Nat) (invert : Bool)
    (basis2 : Int) (multiplier divisor : Nat)
    (multiplierIs : multiplier = if invert then denominator else numerator)
    (divisorIs : divisor = if invert then numerator else denominator)
    (valRange : inS64 val) (basis1Range : inS64 basis1) (basis2Range : inS64 basis2)
    (multiplierSmall : multiplier < 2 ^ 32) (divisorSmall : divisor < 2 ^ 32)
    (positive : 0 < divisor) :
    linearTransformS64ToS64 val basis1 numerator denominator invert basis2 =
      if inS64 (scaledExact val basis1 multiplier divisor + basis2) ∧
          ¬ turnedDown val basis1 basis2 (scaledExact val basis1 multiplier divisor) then
        some (scaledExact val basis1 multiplier divisor + basis2) else none := by
  have distance : (val - basis1).natAbs < 2 ^ 64 := by
    unfold inS64 at basis1Range valRange
    omega
  rw [linearTransform_eq_bind _ _ _ _ _ _ basis1Range valRange, ← multiplierIs, ← divisorIs,
    scaleU64ToU64_eq _ _ _ _ distance multiplierSmall divisorSmall positive]
  by_cases below : val < basis1
  · have magnitude : (val - basis1).natAbs = (basis1 - val).toNat := by omega
    rw [magnitude, scaledExact_of_lt _ _ _ _ positive below, decide_eq_true below]
    generalize quotient ((basis1 - val).toNat * multiplier) divisor true = scaled
    have turned : turnedDown val basis1 basis2 (-scaled) ↔
        0 ≤ basis2 ∧ -(scaled : Int) + basis2 = -2 ^ 63 := by
      unfold turnedDown
      omega
    by_cases fits : scaled < 2 ^ 64
    · rw [if_pos fits, Option.bind_some, addBasis_neg _ _ basis2Range]
      simp only [turned]
    · rw [if_neg fits, Option.bind_none, if_neg]
      unfold inS64 at basis2Range ⊢
      omega
  · have magnitude : (val - basis1).natAbs = (val - basis1).toNat := by omega
    rw [magnitude, scaledExact_of_ge _ _ _ _ (Int.not_lt.mp below), decide_eq_false below]
    generalize quotient ((val - basis1).toNat * multiplier) divisor false = scaled
    by_cases fits : scaled < 2 ^ 64
    · have turned : turnedDown val basis1 basis2 scaled ↔ basis2 = -2 ^ 63 ∧ 2 ^ 63 ≤ scaled := by
        unfold turnedDown
        omega
      rw [if_pos fits, Option.bind_some, addBasis_nonneg _ _ basis2Range]
      simp only [turned]
    · rw [if_neg fits, Option.bind_none, if_neg]
      unfold inS64 at basis2Range ⊢
      omega

theorem inS64_toInt (n : Int64) : inS64 n.toInt := ⟨n.le_toInt, n.toInt_lt⟩

theorem toInt_ofInt (n : Int) (range : inS64 n) : (Int64.ofInt n).toInt = n :=
  Int64.toInt_ofInt_of_le range.1 range.2

namespace LinearTransform

def forwardExact (transform : LinearTransform) (aIn : Int64) : Int :=
  (aIn.toInt - transform.aZero.toInt) * transform.scale.numerator.toNat /
    transform.scale.denominator.toNat + transform.bZero.toInt

def reverseExact (transform : LinearTransform) (bIn : Int64) : Int :=
  (bIn.toInt - transform.bZero.toInt) * transform.scale.denominator.toNat /
    transform.scale.numerator.toNat + transform.aZero.toInt

def forwardTurnedDown (transform : LinearTransform) (aIn : Int64) : Prop :=
  turnedDown aIn.toInt transform.aZero.toInt transform.bZero.toInt
    (scaledExact aIn.toInt transform.aZero.toInt transform.scale.numerator.toNat
      transform.scale.denominator.toNat)

def reverseTurnedDown (transform : LinearTransform) (bIn : Int64) : Prop :=
  turnedDown bIn.toInt transform.bZero.toInt transform.aZero.toInt
    (scaledExact bIn.toInt transform.bZero.toInt transform.scale.denominator.toNat
      transform.scale.numerator.toNat)

instance (transform : LinearTransform) (aIn : Int64) :
    Decidable (transform.forwardTurnedDown aIn) := inferInstanceAs (Decidable (turnedDown ..))

instance (transform : LinearTransform) (bIn : Int64) :
    Decidable (transform.reverseTurnedDown bIn) := inferInstanceAs (Decidable (turnedDown ..))

def answer (exact : Int) (down : Prop) [Decidable down] : Option Int64 :=
  if inS64 exact ∧ ¬ down then some (Int64.ofInt exact) else none

theorem forward_eq (transform : LinearTransform) (aIn : Int64)
    (valid : transform.scale.denominator ≠ 0) : transform.doForwardTransform aIn =
      answer (transform.forwardExact aIn) (transform.forwardTurnedDown aIn) := by
  rw [doForwardTransform, if_neg valid, linearTransform_exact _ _ _ _ _ _
    transform.scale.numerator.toNat transform.scale.denominator.toNat rfl rfl
    (inS64_toInt aIn) (inS64_toInt transform.aZero) (inS64_toInt transform.bZero)
    transform.scale.numerator.toNat_lt transform.scale.denominator.toNat_lt
    (toNat_pos _ valid), answer, apply_ite (Option.map Int64.ofInt)]
  rfl

theorem reverse_eq (transform : LinearTransform) (bIn : Int64)
    (valid : transform.scale.numerator ≠ 0) : transform.doReverseTransform bIn =
      answer (transform.reverseExact bIn) (transform.reverseTurnedDown bIn) := by
  rw [doReverseTransform, if_neg valid, linearTransform_exact _ _ _ _ _ _
    transform.scale.denominator.toNat transform.scale.numerator.toNat rfl rfl
    (inS64_toInt bIn) (inS64_toInt transform.bZero) (inS64_toInt transform.aZero)
    transform.scale.denominator.toNat_lt transform.scale.numerator.toNat_lt
    (toNat_pos _ valid), answer, apply_ite (Option.map Int64.ofInt)]
  rfl

theorem answer_some {exact : Int} {down : Prop} [Decidable down] {out : Int64}
    (given : answer exact down = some out) : out.toInt = exact := by
  unfold answer at given
  split at given
  next inside =>
    cases given
    exact toInt_ofInt exact inside.1
  next => cases given

theorem answer_none {exact : Int} {down : Prop} [Decidable down] :
    answer exact down = none ↔ ¬ inS64 exact ∨ down := by
  simp only [answer, ite_eq_right_iff, reduceCtorEq, imp_false]
  tauto

theorem given_exact {result : Option Int64} {invalid : Prop} {exact : Int} {down : Prop}
    [Decidable down] {out : Int64} (nothing : invalid → result = none)
    (answers : ¬ invalid → result = answer exact down) (given : result = some out) :
    out.toInt = exact := by
  by_cases valid : invalid
  · cases (nothing valid).symm.trans given
  · exact answer_some ((answers valid).symm.trans given)

theorem refused_answer {result : Option Int64} {invalid : Prop} {exact : Int} {down : Prop}
    [Decidable down] (answers : ¬ invalid → result = answer exact down)
    (never : invalid → ¬ down) (inside : down → inS64 exact) :
    (result = none → invalid ∨ ¬ inS64 exact) ↔ ¬ down := by
  by_cases valid : invalid
  · simp only [valid, never valid, true_or, implies_true, not_false_eq_true]
  · rw [answers valid, answer_none]
    tauto

theorem transform_exact (transform : LinearTransform) (input out : Int64) :
    (transform.doForwardTransform input = some out →
      out.toInt = transform.forwardExact input) ∧
    (transform.doReverseTransform input = some out →
      out.toInt = transform.reverseExact input) :=
  ⟨given_exact (fun zero => if_pos zero) (forward_eq transform input),
    given_exact (fun zero => if_pos zero) (reverse_eq transform input)⟩

theorem transform_exact_below :
    let transform : LinearTransform := { scale := ⟨3, 4⟩, aZero := Int64.maxValue, bZero := 7 }
    (transform.doForwardTransform (-2) = some (-6917529027641081850) ∧
      (-6917529027641081850 : Int64).toInt = transform.forwardExact (-2)) ∧
    (transform.doReverseTransform 5 = some 9223372036854775804 ∧
      (9223372036854775804 : Int64).toInt = transform.reverseExact 5) :=
  ⟨⟨by decide, (transform_exact _ _ _).1 (by decide)⟩,
    ⟨by decide, (transform_exact _ _ _).2 (by decide)⟩⟩

theorem turnedDown_inS64 {val basis1 basis2 scaled : Int}
    (turned : turnedDown val basis1 basis2 scaled) : inS64 (scaled + basis2) := by
  unfold turnedDown at turned
  unfold inS64
  omega

theorem not_turnedDown_zero (val basis1 basis2 : Int) (multiplier : Nat) :
    ¬ turnedDown val basis1 basis2 (scaledExact val basis1 multiplier 0) := by
  have zero : scaledExact val basis1 multiplier 0 = 0 := Int.ediv_zero _
  rw [zero, turnedDown]
  omega

-- A sum that starts below the zero point and ends at the least integer is turned down, and so is
-- a sum with the least integer that needs the 64th bit.
theorem refused_iff (transform : LinearTransform) (input : Int64) :
    ((transform.doForwardTransform input = none →
        transform.scale.denominator = 0 ∨ ¬ inS64 (transform.forwardExact input)) ↔
      ¬ transform.forwardTurnedDown input) ∧
    ((transform.doReverseTransform input = none →
        transform.scale.numerator = 0 ∨ ¬ inS64 (transform.reverseExact input)) ↔
      ¬ transform.reverseTurnedDown input) := by
  constructor
  · refine refused_answer (forward_eq transform input) ?_ turnedDown_inS64
    intro zero
    unfold forwardTurnedDown
    rw [zero]
    exact not_turnedDown_zero _ _ _ _
  · refine refused_answer (reverse_eq transform input) ?_ turnedDown_inS64
    intro zero
    unfold reverseTurnedDown
    rw [zero]
    exact not_turnedDown_zero _ _ _ _

theorem zero_refused :
    let transform : LinearTransform :=
      { aZero := Int64.minValue, bZero := Int64.minValue }
    ¬ (transform.doForwardTransform 0 = none →
      transform.scale.denominator = 0 ∨ ¬ inS64 (transform.forwardExact 0)) := by
  decide

end LinearTransform

end MojoMedia
