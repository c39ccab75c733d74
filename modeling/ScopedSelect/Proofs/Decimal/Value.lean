import Mathlib.Algebra.Order.Field.Rat
import Mathlib.Data.Rat.Cast.Order
import Mathlib.Algebra.Order.GroupWithZero.Basic
import Mathlib.Tactic.Linarith
import Mathlib.Tactic.Ring
import ScopedSelect.Decimal.Basic

/-!
# Decimals as exact values

The value of a decimal is a rational, and it is the fraction of naturals that decimals are compared
by. Zeros moved between the digits and the exponent do not change it. The exponent of the first digit
tells between which powers of ten it lies.
-/

namespace ScopedSelect

namespace Decimal

/-- The value of a decimal. -/
def toRat (d : Decimal) : ℚ := d.digits * (10 : ℚ) ^ d.exponent

/-- The value is the numerator over the denominator. -/
theorem toRat_eq_div (d : Decimal) : d.toRat = (d.num : ℚ) / d.den := by
  obtain ⟨digits, exponent⟩ := d
  rw [toRat, num, den]
  rcases Int.le_total 0 exponent with h | h
  · obtain ⟨n, rfl⟩ := Int.eq_ofNat_of_zero_le h
    simp
  · obtain ⟨n, rfl⟩ := Int.exists_eq_neg_ofNat h
    simp [div_eq_mul_inv]

/-- Decimals are not negative; signs are kept apart. -/
theorem toRat_nonneg (d : Decimal) : 0 ≤ d.toRat := by
  rw [toRat_eq_div]
  exact div_nonneg (Nat.cast_nonneg _) (Nat.cast_nonneg _)

/-- Zeros behind the digits are a greater exponent. -/
theorem toRat_mul_pow (digits zeros : Nat) (exponent : Int) :
    (⟨digits * 10 ^ zeros, exponent⟩ : Decimal).toRat = (⟨digits, exponent + zeros⟩ : Decimal).toRat := by
  rw [toRat, toRat, zpow_add₀ (by norm_num), zpow_natCast, Nat.cast_mul, Nat.cast_pow, mul_assoc]
  ring

/-- A decimal on a fixed grid is a fraction with a fixed denominator. -/
theorem toRat_sub (digits place scale : Nat) :
    (⟨digits, place - scale⟩ : Decimal).toRat = (digits * 10 ^ place : Nat) / (10 ^ scale : Nat) := by
  rw [toRat, zpow_sub₀ (by norm_num), zpow_natCast, zpow_natCast, ← mul_div_assoc]
  push_cast
  rfl

/-- Decimals on one grid are ordered as their digits. -/
theorem toRat_le_toRat_iff {digits digits' : Nat} {exponent : Int} :
    (⟨digits, exponent⟩ : Decimal).toRat ≤ (⟨digits', exponent⟩ : Decimal).toRat ↔
      digits ≤ digits' := by
  rw [toRat, toRat, mul_le_mul_iff_of_pos_right (zpow_pos (by norm_num) _), Nat.cast_le]

/-- A power of ten as a decimal. -/
theorem toRat_one (exponent : Int) : (⟨1, exponent⟩ : Decimal).toRat = (10 : ℚ) ^ exponent := by
  rw [toRat, Nat.cast_one, one_mul]

section

variable (d : Decimal)

/-- A decimal has at least one digit. -/
theorem length_digitChars_pos : 0 < d.digitChars.length :=
  List.length_pos_iff.mpr Nat.toDigits_ne_nil

/-- A decimal is less than the power of ten above its first digit. -/
theorem toRat_lt_zpow_leading : d.toRat < (10 : ℚ) ^ (d.leading + 1) := by
  have hdigits : d.digits < 10 ^ d.digitChars.length :=
    (Nat.length_toDigits_le_iff (by decide) d.length_digitChars_pos).mp (Nat.le_refl _)
  have hexponent : d.leading + 1 = d.digitChars.length + d.exponent := by
    rw [leading]
    ring
  rw [hexponent, zpow_add₀ (by norm_num), zpow_natCast, toRat]
  exact mul_lt_mul_of_pos_right (by exact_mod_cast hdigits) (zpow_pos (by norm_num) _)

variable {d}

/-- A decimal that is not zero is no less than the power of ten at its first digit. -/
theorem zpow_leading_le_toRat (h : d.digits ≠ 0) : (10 : ℚ) ^ d.leading ≤ d.toRat := by
  have hdigits : 10 ^ (d.digitChars.length - 1) ≤ d.digits := by
    rcases Nat.eq_zero_or_pos (d.digitChars.length - 1) with hone | hmore
    · rw [hone, Nat.pow_zero]
      exact Nat.pos_of_ne_zero h
    · by_contra hlt
      have hshorter := (Nat.length_toDigits_le_iff (by decide) hmore).mpr (Nat.not_le.mp hlt)
      change d.digitChars.length ≤ d.digitChars.length - 1 at hshorter
      omega
  have hexponent : d.leading = (d.digitChars.length - 1 : Nat) + d.exponent := by
    have := d.length_digitChars_pos
    rw [leading]
    omega
  rw [hexponent, zpow_add₀ (by norm_num), zpow_natCast, toRat]
  exact mul_le_mul_of_nonneg_right (by exact_mod_cast hdigits) (zpow_pos (by norm_num) _).le

end

end Decimal

end ScopedSelect
