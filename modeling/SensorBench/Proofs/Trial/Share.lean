import Mathlib.Tactic.NormNum
import SensorBench.Proofs.Number.Rounding
import SensorBench.Trial.Batching

/-!
# Four fifths of a time

The share for which the batching scenario sleeps is a product of 64-bit numbers. Three roundings
and that of the factor leave it within a 2⁵⁰th of the time and half a nanosecond
(`shareOf_near`), so it is exact for times that five divides, up to 2⁴⁹ nanoseconds
(`shareOf_exact`).
-/

set_option autoImplicit false

namespace SensorBench.Trial

open Number (Format ratio rounded)

/-- The 64-bit format is off by a 2⁵³rd of a quotient that is not tiny. -/
theorem double_near (num : Nat) {den : Nat} (hden : 0 < den) (hbig : 1 / 2 ^ 40 ≤ (num : ℚ) / den) :
    |ratio (rounded .double num den) - num / den| ≤ num / den / 2 ^ 53 := by
  have hnum : 0 < num := by
    refine Nat.pos_of_ne_zero fun hzero => ?_
    rw [hzero, Nat.cast_zero, zero_div] at hbig
    norm_num at hbig
  have hnormal : (2 : ℚ) ^ (Format.double.quantum + Format.double.fractionBits) ≤ num / den := by
    have hexponent : Format.double.quantum + Format.double.fractionBits = -1022 := by decide
    rw [hexponent]
    refine le_trans ?_ hbig
    have hle := zpow_le_zpow_right₀ (one_le_two : (1 : ℚ) ≤ 2) (by decide : (-1022 : Int) ≤ -40)
    exact hle.trans (by norm_num)
  have hnear := Number.rounded_near .double hnum hden hnormal
  rw [div_div] at hnear
  exact hnear.trans (le_of_eq (by norm_num [Format.double, Format.fractionBits]))

/-- The factor is no more than the half of a 2⁵³rd off. -/
theorem fourFifths_eq : fourFifths = (7205759403792794, 2 ^ 53) := by decide +kernel

variable {time : Nat}

/-- The part of a second is rounded once; none is exact. -/
theorem fraction_near (n : Nat) :
    |ratio (rounded .double n 1000000000) - n / 1000000000| ≤ n / 1000000000 / 2 ^ 53 := by
  rcases Nat.eq_zero_or_pos n with rfl | hpos
  · have hzero : rounded .double 0 1000000000 = (0, 2 ^ 82) := by decide +kernel
    rw [hzero, ratio]
    norm_num
  · have hone : (1 : ℚ) ≤ n := Nat.one_le_cast.2 hpos
    have hnear := double_near n (by decide : 0 < 1000000000) (by
      rw [le_div_iff₀ (by positivity)]
      refine le_trans ?_ hone
      norm_num)
    exact_mod_cast hnear

/-- The seconds of a time, two roundings off in the end. -/
theorem inSeconds_near (htime : 0 < time) :
    |ratio (inSeconds time) - time / 1000000000| ≤ time / 1000000000 / 2 ^ 51 := by
  have hfraction := fraction_near (time % 1000000000)
  have hden := Number.rounded_pos .double (time % 1000000000) 1000000000
  have hnonneg := Number.ratio_nonneg (rounded .double (time % 1000000000) 1000000000)
  have htimeSum : (time : ℚ) =
      1000000000 * (time / 1000000000 : Nat) + (time % 1000000000 : Nat) := by
    exact_mod_cast (Nat.div_add_mod time 1000000000).symm
  have hsome : 1 ≤ time / 1000000000 ∨ 1 ≤ time % 1000000000 := by omega
  rw [inSeconds]
  generalize rounded .double (time % 1000000000) 1000000000 = part at *
  generalize time / 1000000000 = whole at *
  generalize time % 1000000000 = rest at *
  obtain ⟨num, den⟩ := part
  dsimp only at *
  have hsum : ((whole * den + num : Nat) : ℚ) / den = whole + ratio (num, den) := by
    rw [ratio]
    push_cast
    rw [add_div, mul_div_cancel_right₀ _ (Nat.cast_ne_zero.2 hden.ne')]
  have hbig : 1 / 2 ^ 40 ≤ (whole : ℚ) + ratio (num, den) := by
    rw [abs_le] at hfraction
    rcases hsome with hwhole | hrest
    · have hone : (1 : ℚ) ≤ whole := Nat.one_le_cast.2 hwhole
      linarith
    · have hone : (1 : ℚ) ≤ rest := Nat.one_le_cast.2 hrest
      have hwhole : (0 : ℚ) ≤ whole := Nat.cast_nonneg whole
      linarith
  have hnear := double_near (whole * den + num) hden (hsum.symm ▸ hbig)
  rw [hsum] at hnear
  have hrest : (0 : ℚ) ≤ rest := Nat.cast_nonneg rest
  have hwhole : (0 : ℚ) ≤ whole := Nat.cast_nonneg whole
  rw [htimeSum]
  rw [abs_le] at hfraction hnear ⊢
  constructor <;> linarith

/-- The share of a time is four fifths of it up to a 2⁵⁰th of the time and half a nanosecond. -/
theorem shareOf_near (htime : 0 < time) :
    |(shareOf time : ℚ) - 4 * time / 5| ≤ time / 2 ^ 50 + 1 / 2 := by
  have hseconds := inSeconds_near htime
  have hone : (1 : ℚ) ≤ time := Nat.one_le_cast.2 htime
  have hden : 0 < (inSeconds time).2 := Number.rounded_pos _ _ _
  rw [shareOf, fourFifths_eq]
  generalize inSeconds time = seconds at *
  obtain ⟨num, den⟩ := seconds
  dsimp only at *
  have hproduct : ((7205759403792794 * num : Nat) : ℚ) / (2 ^ 53 * den : Nat) =
      7205759403792794 / 2 ^ 53 * ratio (num, den) := by
    rw [ratio, div_mul_div_comm]
    norm_num
  have hbig : 1 / 2 ^ 40 ≤ 7205759403792794 / 2 ^ 53 * ratio (num, den) := by
    rw [abs_le] at hseconds
    linarith
  have hnear := double_near (7205759403792794 * num) (Nat.mul_pos (Nat.two_pow_pos 53) hden)
    (hproduct.symm ▸ hbig)
  rw [hproduct] at hnear
  have hpos := Number.rounded_pos .double (7205759403792794 * num) (2 ^ 53 * den)
  generalize rounded .double (7205759403792794 * num) (2 ^ 53 * den) = scaled at *
  obtain ⟨top, bottom⟩ := scaled
  dsimp only at *
  have hnanos := Number.roundHalfEven_near (top * 1000000000) hpos
  have hvalue : ((top * 1000000000 : Nat) : ℚ) / bottom = ratio (top, bottom) * 1000000000 := by
    rw [ratio]
    push_cast
    exact mul_div_right_comm _ _ _
  rw [hvalue] at hnanos
  rw [abs_le] at hseconds hnear hnanos ⊢
  constructor <;> linarith

example : shareOf 21493933200000000 + 1 = 21493933200000000 * 4 / 5 := by decide +kernel

/-- The same in whole numbers. -/
theorem shareOf_bounds (time : Nat) :
    2 ^ 52 * time ≤ 5 * 2 ^ 50 * shareOf time + 5 * time + 5 * 2 ^ 49 ∧
      5 * 2 ^ 50 * shareOf time ≤ 2 ^ 52 * time + 5 * time + 5 * 2 ^ 49 := by
  rcases Nat.eq_zero_or_pos time with rfl | htime
  · decide +kernel
  · obtain ⟨hlow, hhigh⟩ := abs_le.1 (shareOf_near htime)
    have hlow' : (2 : ℚ) ^ 52 * time ≤ 5 * 2 ^ 50 * shareOf time + 5 * time + 5 * 2 ^ 49 := by
      linarith
    have hhigh' : (5 : ℚ) * 2 ^ 50 * shareOf time ≤ 2 ^ 52 * time + 5 * time + 5 * 2 ^ 49 := by
      linarith
    exact ⟨by exact_mod_cast hlow', by exact_mod_cast hhigh'⟩

/-- Four fifths of a time that five divides are exact up to 2⁴⁹ nanoseconds. -/
theorem shareOf_exact (hfive : 5 ∣ time) (hshort : time < 2 ^ 49) :
    5 * shareOf time = 4 * time := by
  obtain ⟨hlow, hhigh⟩ := shareOf_bounds time
  omega

end SensorBench.Trial
