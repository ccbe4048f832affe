import Mathlib.Algebra.Order.Field.Power
import Mathlib.Algebra.Order.Field.Rat
import Mathlib.Tactic.Linarith
import Mathlib.Tactic.Positivity
import SensorBench.Number.Binary

/-!
# Rounding errors

A quotient rounded to a natural is at most a half off (`roundHalfEven_near`). A quotient rounded
to a binary format is counted in units of a power of two that is small against the quotient
(`zpow_unitOf_le`), so it is off by no more than a share of itself that the precision gives
(`rounded_near`).
-/

set_option autoImplicit false

namespace SensorBench.Number

/-- The value of a numerator and a denominator. -/
def ratio (p : Nat × Nat) : ℚ := p.1 / p.2

section

variable {num den : Nat}

/-- A half is the most by which a rounded quotient is off. -/
theorem roundHalfEven_near (num : Nat) {den : Nat} (hden : 0 < den) :
    |(roundHalfEven num den : ℚ) - num / den| ≤ 1 / 2 := by
  have hdiv := Nat.div_add_mod num den
  have hmod := Nat.mod_lt num hden
  have hsucc : den * (num / den + 1) = den * (num / den) + den := Nat.mul_succ _ _
  -- twice the quotient in units of the denominator
  have hlow : 2 * num ≤ 2 * (den * roundHalfEven num den) + den := by
    rw [roundHalfEven]
    split_ifs <;> omega
  have hhigh : 2 * (den * roundHalfEven num den) ≤ 2 * num + den := by
    rw [roundHalfEven]
    split_ifs <;> omega
  have hpos : (0 : ℚ) < den := Nat.cast_pos.2 hden
  have hlow' : 2 * (num : ℚ) ≤ 2 * (den * roundHalfEven num den) + den := by exact_mod_cast hlow
  have hhigh' : 2 * ((den : ℚ) * roundHalfEven num den) ≤ 2 * num + den := by exact_mod_cast hhigh
  have hover : (num : ℚ) / den ≤ roundHalfEven num den + 1 / 2 := by
    rw [div_le_iff₀ hpos]
    linarith
  have hunder : (roundHalfEven num den : ℚ) - 1 / 2 ≤ num / den := by
    rw [le_div_iff₀ hpos]
    linarith
  rw [abs_le]
  constructor <;> linarith

theorem zpow_le_of_powerFits (hden : 0 < den) {e : Int} (h : powerFits e num den = true) :
    (2 : ℚ) ^ e ≤ num / den := by
  have hpos : (0 : ℚ) < den := Nat.cast_pos.2 hden
  rw [powerFits] at h
  rw [le_div_iff₀ hpos]
  split_ifs at h with hnonneg
  · obtain ⟨n, rfl⟩ := Int.eq_ofNat_of_zero_le hnonneg
    have hfits : den * 2 ^ n ≤ num := of_decide_eq_true h
    rw [zpow_natCast, mul_comm]
    exact_mod_cast hfits
  · obtain ⟨n, rfl⟩ : ∃ n : Nat, e = -(n : Int) := ⟨(-e).toNat, by omega⟩
    rw [neg_neg] at h
    have hfits : den ≤ num * 2 ^ n := of_decide_eq_true h
    rw [zpow_neg, zpow_natCast, inv_mul_le_iff₀ (by positivity), mul_comm]
    exact_mod_cast hfits

/-- The leading bit weighs no more than the whole. -/
theorem zpow_leadingBit_le (hnum : 0 < num) (hden : 0 < den) :
    (2 : ℚ) ^ leadingBit num den ≤ num / den := by
  rw [leadingBit]
  split_ifs with hfits
  · exact zpow_le_of_powerFits hden hfits
  · -- one bit less than the lengths tell is always enough
    have hlow : ((2 ^ Nat.log2 num : Nat) : ℚ) ≤ num :=
      Nat.cast_le.2 (Nat.log2_self_le hnum.ne')
    have hhigh : (den : ℚ) ≤ (2 ^ (Nat.log2 den + 1) : Nat) :=
      Nat.cast_le.2 Nat.lt_log2_self.le
    have hsplit : (2 : ℚ) ^ ((Nat.log2 num : Int) - Nat.log2 den - 1) =
        ((2 ^ Nat.log2 num : Nat) : ℚ) / (2 ^ (Nat.log2 den + 1) : Nat) := by
      rw [sub_sub, zpow_sub₀ two_ne_zero]
      norm_cast
    rw [hsplit]
    exact div_le_div₀ (Nat.cast_nonneg _) hlow (Nat.cast_pos.2 hden) hhigh

/-- A value in units of a power of two. -/
theorem ratio_scaled (m : Nat) (q : Int) : ratio (scaled m q) = m * (2 : ℚ) ^ q := by
  rw [scaled]
  split_ifs with hnonneg
  · obtain ⟨n, rfl⟩ := Int.eq_ofNat_of_zero_le hnonneg
    have hvalue : ratio (m * Nat.pow 2 n, 1) = ((m * 2 ^ n : Nat) : ℚ) / (1 : Nat) := rfl
    rw [zpow_natCast]
    exact hvalue.trans (by push_cast; exact div_one _)
  · obtain ⟨n, rfl⟩ : ∃ n : Nat, q = -(n : Int) := ⟨(-q).toNat, by omega⟩
    have hvalue : ratio (m, Nat.pow 2 n) = (m : ℚ) / ((2 ^ n : Nat) : ℚ) := rfl
    rw [neg_neg, zpow_neg, zpow_natCast, ← div_eq_mul_inv]
    exact hvalue.trans (by push_cast; rfl)

/-- In its units a quotient is at most a half off. -/
theorem significand_near (unit : Int) (hden : 0 < den) :
    |(significand unit num den : ℚ) - num / den / (2 : ℚ) ^ unit| ≤ 1 / 2 := by
  rw [significand]
  split_ifs with hnonneg
  · obtain ⟨n, rfl⟩ := Int.eq_ofNat_of_zero_le hnonneg
    have hnear := roundHalfEven_near num (Nat.mul_pos hden (Nat.two_pow_pos n))
    rw [zpow_natCast, div_div]
    exact_mod_cast hnear
  · obtain ⟨n, rfl⟩ : ∃ n : Nat, unit = -(n : Int) := ⟨(-unit).toNat, by omega⟩
    have hnear := roundHalfEven_near (num * 2 ^ n) hden
    rw [neg_neg, zpow_neg, zpow_natCast, div_inv_eq_mul, div_mul_eq_mul_div]
    exact_mod_cast hnear

/-- From the least normal number on, the unit is small against the quotient. -/
theorem zpow_unitOf_le (f : Format) (hnum : 0 < num) (hden : 0 < den)
    (hnormal : (2 : ℚ) ^ (f.quantum + f.fractionBits) ≤ num / den) :
    (2 : ℚ) ^ unitOf f num den ≤ num / den / 2 ^ f.fractionBits := by
  rw [le_div_iff₀ (by positivity), ← zpow_natCast, ← zpow_add₀ two_ne_zero, unitOf]
  rcases le_total f.quantum (leadingBit num den - f.fractionBits) with hle | hle
  · rw [max_eq_left hle, sub_add_cancel]
    exact zpow_leadingBit_le hnum hden
  · rw [max_eq_right hle]
    exact hnormal

/-- A quotient rounded to a format is off by a share of itself. -/
theorem rounded_near (f : Format) (hnum : 0 < num) (hden : 0 < den)
    (hnormal : (2 : ℚ) ^ (f.quantum + f.fractionBits) ≤ num / den) :
    |ratio (rounded f num den) - num / den| ≤ num / den / 2 ^ f.fractionBits / 2 := by
  have hunit : (0 : ℚ) < (2 : ℚ) ^ unitOf f num den := by positivity
  have hoff : ratio (rounded f num den) - num / den =
      (significand (unitOf f num den) num den - num / den / (2 : ℚ) ^ unitOf f num den) *
        (2 : ℚ) ^ unitOf f num den := by
    rw [rounded, ratio_scaled, sub_mul, div_mul_cancel₀ _ hunit.ne']
  calc |ratio (rounded f num den) - num / den|
      = |(significand (unitOf f num den) num den : ℚ) -
          num / den / (2 : ℚ) ^ unitOf f num den| * (2 : ℚ) ^ unitOf f num den := by
        rw [hoff, abs_mul, abs_of_pos hunit]
    _ ≤ 1 / 2 * (2 : ℚ) ^ unitOf f num den :=
        mul_le_mul_of_nonneg_right (significand_near _ hden) hunit.le
    _ ≤ 1 / 2 * (num / den / 2 ^ f.fractionBits) :=
        mul_le_mul_of_nonneg_left (zpow_unitOf_le f hnum hden hnormal) (by norm_num)
    _ = num / den / 2 ^ f.fractionBits / 2 := one_div_mul_eq_div _ _

theorem rounded_pos (f : Format) (num den : Nat) : 0 < (rounded f num den).2 := by
  rw [rounded, scaled]
  split_ifs
  · exact Nat.one_pos
  · exact Nat.pow_pos Nat.two_pos

theorem ratio_nonneg (p : Nat × Nat) : 0 ≤ ratio p :=
  div_nonneg (Nat.cast_nonneg _) (Nat.cast_nonneg _)

end

end SensorBench.Number
