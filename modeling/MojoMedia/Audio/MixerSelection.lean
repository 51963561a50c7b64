import MojoMedia.Audio.TrackLinks

set_option autoImplicit false

namespace MojoMedia

open MachineInt

namespace Ratio

variable {numerator denominator : UInt32}

theorem reduced_toNat (valid : denominator ≠ 0) :
    (reduced numerator denominator).numerator.toNat =
        numerator.toNat / numerator.toNat.gcd denominator.toNat ∧
      (reduced numerator denominator).denominator.toNat =
        denominator.toNat / numerator.toNat.gcd denominator.toNat := by
  have positive := toNat_pos denominator valid
  rw [reduced, if_pos valid, reduce_eq _ _ positive]
  constructor
  · exact UInt32.toNat_ofNat_of_lt' (Nat.lt_of_le_of_lt (Nat.div_le_self _ _) numerator.toNat_lt)
  · exact UInt32.toNat_ofNat_of_lt' (Nat.lt_of_le_of_lt (Nat.div_le_self _ _) denominator.toNat_lt)

theorem div_gcd_eq_one_iff (first second : Nat) (positive : 0 < first) :
    first / first.gcd second = 1 ↔ first ∣ second := by
  rw [← Nat.gcd_eq_left_iff_dvd]
  have divides := Nat.gcd_dvd_left first second
  have whole := Nat.mul_div_cancel' divides
  constructor
  · intro one
    rwa [one, Nat.mul_one] at whole
  · intro same
    rw [same, Nat.div_self positive]

theorem reduced_numerator_eq_one (filled : numerator ≠ 0) (valid : denominator ≠ 0) :
    (reduced numerator denominator).numerator = 1 ↔ numerator.toNat ∣ denominator.toNat := by
  rw [← UInt32.toNat_inj, (reduced_toNat valid).1]
  exact div_gcd_eq_one_iff _ _ (toNat_pos numerator filled)

end Ratio

namespace Audio

open Mixers

def AudioFormat.WholeFrames (srcFormat dstFormat : AudioFormat) : Prop :=
  ∀ frame : Nat, dstFormat.framesPerSecond.toNat ∣ frame * srcFormat.framesPerSecond.toNat

theorem wholeFrames_iff (srcFormat dstFormat : AudioFormat) :
    srcFormat.WholeFrames dstFormat ↔
      dstFormat.framesPerSecond.toNat ∣ srcFormat.framesPerSecond.toNat := by
  constructor
  · intro whole
    simpa using whole 1
  · intro divides frame
    exact Dvd.dvd.mul_left divides frame

-- The point sampler is chosen when the source rate is an integer multiple of the destination rate
-- and the linear sampler otherwise, so a point sampler steps by whole frames.
structure Mixer.SelectedByMultiple (srcFormat dstFormat : AudioFormat) (config : Config) :
    Prop where
  chosen : Mixer.select srcFormat (some dstFormat) =
    some (if dstFormat.framesPerSecond.toNat ∣ srcFormat.framesPerSecond.toNat
      then .pointSampler config else .linearSampler config)
  whole : Mixer.select srcFormat (some dstFormat) = some (.pointSampler config) →
    srcFormat.WholeFrames dstFormat

section Selection

variable {srcFormat dstFormat : AudioFormat} {config : Config}

theorem select_eq (filled : srcFormat.framesPerSecond ≠ 0) (valid : dstFormat.framesPerSecond ≠ 0)
    (supported : selectConfig srcFormat dstFormat = some config) :
    Mixer.select srcFormat (some dstFormat) =
      some (if srcFormat.framesPerSecond.toNat ∣ dstFormat.framesPerSecond.toNat
        then .pointSampler config else .linearSampler config) := by
  have test := Ratio.reduced_numerator_eq_one filled valid
  simp only [Mixer.select, test, supported, Option.map_some]
  split <;> rfl

-- The mixer is the documented one exactly when the rates are equal or neither is a multiple of
-- the other.
theorem selected_by_multiple_iff (srcFormat dstFormat : AudioFormat) (config : Config)
    (filled : srcFormat.framesPerSecond ≠ 0) (valid : dstFormat.framesPerSecond ≠ 0)
    (supported : selectConfig srcFormat dstFormat = some config) :
    Mixer.SelectedByMultiple srcFormat dstFormat config ↔
      srcFormat.framesPerSecond = dstFormat.framesPerSecond ∨
        (¬ srcFormat.framesPerSecond.toNat ∣ dstFormat.framesPerSecond.toNat ∧
          ¬ dstFormat.framesPerSecond.toNat ∣ srcFormat.framesPerSecond.toNat) := by
  have chosen := select_eq filled valid supported
  have equal : srcFormat.framesPerSecond = dstFormat.framesPerSecond ↔
      srcFormat.framesPerSecond.toNat ∣ dstFormat.framesPerSecond.toNat ∧
        dstFormat.framesPerSecond.toNat ∣ srcFormat.framesPerSecond.toNat := by
    rw [← UInt32.toNat_inj]
    exact ⟨fun same => by simp [same], fun both => Nat.dvd_antisymm both.1 both.2⟩
  rw [equal]
  by_cases up : srcFormat.framesPerSecond.toNat ∣ dstFormat.framesPerSecond.toNat
  · by_cases down : dstFormat.framesPerSecond.toNat ∣ srcFormat.framesPerSecond.toNat
    · refine iff_of_true ⟨?_, fun _ => (wholeFrames_iff _ _).mpr down⟩ (.inl ⟨up, down⟩)
      rw [chosen, if_pos up, if_pos down]
    · refine iff_of_false ?_ (by simp [up, down])
      intro selected
      exact down ((wholeFrames_iff _ _).mp (selected.whole (by rw [chosen, if_pos up])))
  · by_cases down : dstFormat.framesPerSecond.toNat ∣ srcFormat.framesPerSecond.toNat
    · refine iff_of_false ?_ (by simp [up, down])
      intro selected
      have other := selected.chosen
      rw [chosen, if_neg up, if_pos down] at other
      cases other
    · refine iff_of_true ⟨?_, ?_⟩ (.inr ⟨up, down⟩)
      · rw [chosen, if_neg up, if_neg down]
      · intro point
        rw [chosen, if_neg up] at point
        cases point

theorem selected_unrelated :
    Mixer.SelectedByMultiple ⟨.signed16, 2, 44100⟩ ⟨.signed16, 1, 48000⟩
      { dst := .mono, type := .int16, src := .stereo } :=
  (selected_by_multiple_iff ⟨.signed16, 2, 44100⟩ ⟨.signed16, 1, 48000⟩ _ (by decide) (by decide)
    rfl).mpr (.inr ⟨by decide, by decide⟩)

-- Halving the rate is left to the linear sampler. Doubling it is not, and every other output
-- frame lies between two input frames.
theorem selection_reversed :
    Mixer.select ⟨.signed16, 1, 48000⟩ (some ⟨.signed16, 1, 24000⟩) =
        some (.linearSampler { dst := .mono, type := .int16, src := .mono }) ∧
      Mixer.select ⟨.signed16, 1, 24000⟩ (some ⟨.signed16, 1, 48000⟩) =
        some (.pointSampler { dst := .mono, type := .int16, src := .mono }) ∧
      ¬ Mixer.SelectedByMultiple ⟨.signed16, 1, 48000⟩ ⟨.signed16, 1, 24000⟩
        { dst := .mono, type := .int16, src := .mono } ∧
      ¬ Mixer.SelectedByMultiple ⟨.signed16, 1, 24000⟩ ⟨.signed16, 1, 48000⟩
        { dst := .mono, type := .int16, src := .mono } := by
  have down : Mixer.select ⟨.signed16, 1, 48000⟩ (some ⟨.signed16, 1, 24000⟩) =
      some (.linearSampler { dst := .mono, type := .int16, src := .mono }) := by
    decide +kernel
  have up : Mixer.select ⟨.signed16, 1, 24000⟩ (some ⟨.signed16, 1, 48000⟩) =
      some (.pointSampler { dst := .mono, type := .int16, src := .mono }) := by
    decide +kernel
  refine ⟨down, up, ?_, ?_⟩
  · rintro ⟨chosen, -⟩
    rw [down] at chosen
    exact absurd chosen (by decide)
  · rintro ⟨-, whole⟩
    exact absurd (whole up 1) (by decide)

end Selection

end Audio

end MojoMedia
