import Mathlib.Order.Monotone.Basic
import ScopedSelect.Binary.Format

/-!
# Magnitudes in order

The finite magnitudes of a format count its non-negative numbers from zero upward. The step from one
to the next is a power of two that depends on the exponent alone, so greater magnitudes have greater
sizes and no two of them have the same.
-/

namespace ScopedSelect

namespace Format

variable (F : Format)

/-- The step from a magnitude to the next one, in multiples of the least positive number. -/
def step (magnitude : Nat) : Nat := 2 ^ (magnitude / 2 ^ F.fractionBits - 1)

/-- The step to the next magnitude is positive. -/
theorem step_pos (magnitude : Nat) : 0 < F.step magnitude := Nat.two_pow_pos _

/-- A magnitude is an exponent and a significand side by side. Below the first normal number there is
no leading one, and the significand is the size. -/
theorem units_and_step {excess significand : Nat} (hlt : significand < 2 * 2 ^ F.fractionBits)
    (hle : excess = 0 ∨ 2 ^ F.fractionBits ≤ significand) :
    F.units (excess * 2 ^ F.fractionBits + significand) = significand * 2 ^ excess ∧
      F.step (excess * 2 ^ F.fractionBits + significand) = 2 ^ excess := by
  have hpos : 0 < 2 ^ F.fractionBits := Nat.two_pow_pos _
  unfold units step
  generalize 2 ^ F.fractionBits = top at *
  by_cases hsmall : significand < top
  · obtain rfl : excess = 0 := hle.resolve_right (by omega)
    simp [hsmall, Nat.div_eq_of_lt hsmall]
  · obtain ⟨fraction, rfl⟩ : ∃ fraction, significand = top + fraction :=
      ⟨significand - top, by omega⟩
    have hfraction : fraction < top := by omega
    have hsum : excess * top + (top + fraction) = fraction + top * (excess + 1) := by
      rw [Nat.mul_add, Nat.mul_comm top excess]
      omega
    have hbig : ¬ fraction + top * (excess + 1) < top := by
      rw [← hsum]
      omega
    rw [hsum, if_neg hbig, Nat.add_mul_div_left _ _ hpos, Nat.add_mul_mod_self_left,
      Nat.div_eq_of_lt hfraction, Nat.mod_eq_of_lt hfraction, Nat.zero_add, Nat.add_sub_cancel]
    exact ⟨rfl, rfl⟩

/-- Every magnitude has such an exponent and significand. -/
theorem exists_excess_significand (magnitude : Nat) :
    ∃ excess significand, significand < 2 * 2 ^ F.fractionBits ∧
      (excess = 0 ∨ 2 ^ F.fractionBits ≤ significand) ∧
        magnitude = excess * 2 ^ F.fractionBits + significand := by
  have hmod := Nat.mod_lt magnitude (Nat.two_pow_pos F.fractionBits)
  have hdiv := Nat.div_add_mod' magnitude (2 ^ F.fractionBits)
  cases hexponent : magnitude / 2 ^ F.fractionBits with
  | zero =>
    rw [hexponent] at hdiv
    exact ⟨0, magnitude % 2 ^ F.fractionBits, by omega, .inl rfl, by omega⟩
  | succ excess =>
    rw [hexponent, Nat.succ_mul] at hdiv
    exact ⟨excess, 2 ^ F.fractionBits + magnitude % 2 ^ F.fractionBits, by omega, .inr (by omega),
      by omega⟩

/-- The size of the next magnitude is one step further. -/
theorem units_succ (magnitude : Nat) : F.units (magnitude + 1) = F.units magnitude + F.step magnitude := by
  obtain ⟨excess, significand, hlt, hle, rfl⟩ := F.exists_excess_significand magnitude
  obtain ⟨hunits, hstep⟩ := F.units_and_step hlt hle
  rw [hunits, hstep]
  by_cases hnext : significand + 1 < 2 * 2 ^ F.fractionBits
  · rw [Nat.add_assoc, (F.units_and_step hnext (hle.imp_right (by omega))).1, Nat.succ_mul]
  · -- The significand overflows into the exponent.
    have hcarry : excess * 2 ^ F.fractionBits + significand + 1 =
        (excess + 1) * 2 ^ F.fractionBits + 2 ^ F.fractionBits := by
      rw [Nat.succ_mul]
      omega
    have hpos : 0 < 2 ^ F.fractionBits := Nat.two_pow_pos _
    have hfull : significand + 1 = 2 ^ F.fractionBits * 2 := by omega
    rw [hcarry, (F.units_and_step (by omega) (.inr (Nat.le_refl _))).1, Nat.pow_succ',
      ← Nat.mul_assoc, ← hfull, Nat.succ_mul]

/-- Greater magnitudes have greater sizes. -/
theorem units_strictMono : StrictMono F.units := by
  apply strictMono_nat_of_lt_succ
  intro magnitude
  rw [units_succ]
  exact Nat.lt_add_of_pos_right (F.step_pos magnitude)

/-- A positive number is no less than the step to the next one. -/
theorem step_le_units {magnitude : Nat} (h : 0 < magnitude) : F.step magnitude ≤ F.units magnitude := by
  obtain ⟨excess, significand, hlt, hle, rfl⟩ := F.exists_excess_significand magnitude
  obtain ⟨hunits, hstep⟩ := F.units_and_step hlt hle
  have hpos : 0 < 2 ^ F.fractionBits := Nat.two_pow_pos _
  have hsignificand : 0 < significand := by
    rcases hle with rfl | hle
    · simpa using h
    · omega
  rw [hunits, hstep]
  exact Nat.le_mul_of_pos_left _ hsignificand

/-- A number has fewer steps than the significand has values. -/
theorem units_lt (magnitude : Nat) :
    F.units magnitude < 2 * 2 ^ F.fractionBits * F.step magnitude := by
  obtain ⟨excess, significand, hlt, hle, rfl⟩ := F.exists_excess_significand magnitude
  obtain ⟨hunits, hstep⟩ := F.units_and_step hlt hle
  rw [hunits, hstep]
  exact Nat.mul_lt_mul_of_pos_right hlt (Nat.two_pow_pos _)

/-- From the first normal number on a number has at least as many steps as the fraction has values. -/
theorem le_units {magnitude : Nat} (h : 2 ^ F.fractionBits ≤ magnitude) :
    2 ^ F.fractionBits * F.step magnitude ≤ F.units magnitude := by
  obtain ⟨excess, significand, hlt, hle, rfl⟩ := F.exists_excess_significand magnitude
  obtain ⟨hunits, hstep⟩ := F.units_and_step hlt hle
  have hnormal : 2 ^ F.fractionBits ≤ significand := by
    rcases hle with rfl | hle
    · simpa using h
    · exact hle
  rw [hunits, hstep]
  exact Nat.mul_le_mul_right _ hnormal

/-- The steps do not become smaller. -/
theorem step_mono : Monotone F.step := fun _ _ h =>
  Nat.pow_le_pow_right (by decide) (Nat.sub_le_sub_right (Nat.div_le_div_right h) 1)

/-- From one magnitude to the next the step at most doubles. -/
theorem step_le_two_mul (magnitude : Nat) : F.step magnitude ≤ 2 * F.step (magnitude - 1) := by
  have hpos : 0 < 2 ^ F.fractionBits := Nat.two_pow_pos _
  have hdiv : magnitude / 2 ^ F.fractionBits ≤ (magnitude - 1) / 2 ^ F.fractionBits + 1 := by
    rw [← Nat.add_div_right _ hpos]
    exact Nat.div_le_div_right (by omega)
  rw [step, step, ← Nat.pow_succ']
  exact Nat.pow_le_pow_right (by decide) (by omega)

/-- The least positive magnitude is the least positive number. -/
theorem units_one : F.units 1 = 1 := by
  have hstep : F.step 0 = 1 := by simp [step]
  rw [units_succ, units_zero, hstep]

/-- The first power of two out of range is the size that comes after all finite ones. -/
theorem units_infinity (h : 0 < F.exponentBits) :
    F.units F.infinity = 2 ^ F.fractionBits * 2 ^ (2 ^ F.exponentBits - 2 : Nat) := by
  have hexponents : 1 < 2 ^ F.exponentBits := Nat.one_lt_two_pow (by omega)
  have hpos : 0 < 2 ^ F.fractionBits := Nat.two_pow_pos _
  have hinfinity : F.infinity =
      (2 ^ F.exponentBits - 2) * 2 ^ F.fractionBits + 2 ^ F.fractionBits := by
    rw [infinity, ← Nat.succ_mul]
    congr 1
    omega
  rw [hinfinity, (F.units_and_step (by omega) (.inr (Nat.le_refl _))).1]

end Format

end ScopedSelect
