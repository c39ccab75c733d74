import ScopedSelect.Binary.Nearest
import ScopedSelect.Proofs.Binary.Value
import ScopedSelect.Proofs.Decimal.Value

/-!
# Rounding to the nearest number

`Format.nearestMagnitude` cuts a fraction at the leading bits that the format has room for and then
compares what is left with half a step. The magnitude below the cut is the greatest that does not
exceed the fraction, so the outcome is the magnitude that the fraction rounds to. The number nearest
to a decimal has this magnitude, and there is none just when the decimal is out of range: the two
shortcuts before the division decide only what it would decide too.
-/

namespace ScopedSelect

namespace Format

variable (F : Format)

/-- The middle of two magnitudes and a fraction are compared between naturals. -/
theorem middle_le_iff (a b num : Nat) {den : Nat} (hden : 0 < den) :
    F.size a + F.size b ≤ 2 * ((num : ℚ) / den) ↔
      (F.units a + F.units b) * den ≤ 2 * (num * 2 ^ F.scale) := by
  have hscale : (0 : ℚ) < (2 ^ F.scale : Nat) := Nat.cast_pos.mpr (Nat.two_pow_pos _)
  have hden' : (0 : ℚ) < den := Nat.cast_pos.mpr hden
  rw [size, size, ← add_div, mul_div_assoc', div_le_div_iff₀ hscale hden', mul_assoc]
  exact_mod_cast Iff.rfl

/-- The same with the fraction on the left. -/
theorem le_middle_iff (a b num : Nat) {den : Nat} (hden : 0 < den) :
    2 * ((num : ℚ) / den) ≤ F.size a + F.size b ↔
      2 * (num * 2 ^ F.scale) ≤ (F.units a + F.units b) * den := by
  have hscale : (0 : ℚ) < (2 ^ F.scale : Nat) := Nat.cast_pos.mpr (Nat.two_pow_pos _)
  have hden' : (0 : ℚ) < den := Nat.cast_pos.mpr hden
  rw [size, size, ← add_div, mul_div_assoc', div_le_div_iff₀ hden' hscale, mul_assoc]
  exact_mod_cast Iff.rfl

/-- A fraction rounds to a magnitude if this is so between naturals. -/
theorem rounds_of_scaled {num den m : Nat} (hden : 0 < den)
    (hlower : 0 < m → (F.units (m - 1) + F.units m) * den ≤ 2 * (num * 2 ^ F.scale))
    (hupper : 2 * (num * 2 ^ F.scale) ≤ (F.units m + F.units (m + 1)) * den)
    (heven : m % 2 = 0 ∨
      ((0 < m → (F.units (m - 1) + F.units m) * den < 2 * (num * 2 ^ F.scale)) ∧
        2 * (num * 2 ^ F.scale) < (F.units m + F.units (m + 1)) * den)) :
    F.Rounds ((num : ℚ) / den) m where
  lower hm := (F.middle_le_iff _ _ _ hden).mpr (hlower hm)
  upper := (F.le_middle_iff _ _ _ hden).mpr hupper
  even_of_lower hm heq := by
    rcases heven with heven | ⟨hlt, -⟩
    · exact heven
    · exact absurd ((F.le_middle_iff _ _ _ hden).mp heq.ge) (Nat.not_le.mpr (hlt hm))
  even_of_upper heq := by
    rcases heven with heven | ⟨-, hlt⟩
    · exact heven
    · exact absurd ((F.middle_le_iff _ _ _ hden).mp heq.ge) (Nat.not_le.mpr hlt)

/-- The leading bits of a fraction that the format has room for: the magnitude that they make up does
not exceed the fraction, and what is left is less than a step. -/
theorem units_below (scaled den : Nat) :
    let excess := F.excessBits (scaled / den)
    let below := excess * 2 ^ F.fractionBits + scaled / (den * 2 ^ excess)
    F.units below * den + scaled % (den * 2 ^ excess) = scaled ∧ F.step below = 2 ^ excess := by
  intro excess below
  have hquotient : scaled / (den * 2 ^ excess) = scaled / den / 2 ^ excess :=
    (Nat.div_div_eq_div_mul _ _ _).symm
  have hlt : scaled / (den * 2 ^ excess) < 2 * 2 ^ F.fractionBits := by
    rw [hquotient, Nat.div_lt_iff_lt_mul (Nat.two_pow_pos _), ← Nat.pow_succ', ← Nat.pow_add]
    refine Nat.lt_of_lt_of_le Nat.lt_log2_self (Nat.pow_le_pow_right (by decide) ?_)
    simp only [excess, excessBits]
    omega
  have hle : excess = 0 ∨ 2 ^ F.fractionBits ≤ scaled / (den * 2 ^ excess) := by
    by_cases hexcess : excess = 0
    · exact .inl hexcess
    · have hlog : F.fractionBits + excess = (scaled / den).log2 := by
        simp only [excess, excessBits] at hexcess ⊢
        omega
      have hne : scaled / den ≠ 0 := by
        intro hzero
        simp [excess, excessBits, hzero] at hexcess
      refine .inr ?_
      rw [hquotient, Nat.le_div_iff_mul_le (Nat.two_pow_pos _), ← Nat.pow_add, hlog]
      exact Nat.log2_self_le hne
  obtain ⟨hunits, hstep⟩ := F.units_and_step hlt hle
  refine ⟨?_, hstep⟩
  have hdiv := Nat.div_add_mod scaled (den * 2 ^ excess)
  rw [hunits, Nat.mul_assoc, Nat.mul_comm (2 ^ excess), Nat.mul_comm (scaled / _)]
  exact hdiv

/-- The magnitude chosen for a fraction is the one that the fraction rounds to. -/
theorem nearestMagnitude_rounds (num : Nat) {den : Nat} (hden : 0 < den) :
    F.Rounds ((num : ℚ) / den) (F.nearestMagnitude num den) := by
  obtain ⟨hbelow, hstep⟩ := F.units_below (num * 2 ^ F.scale) den
  have hlt {m k : Nat} (h : m < k) : F.units m * den < F.units k * den :=
    Nat.mul_lt_mul_of_pos_right (F.units_strictMono h) hden
  have hrest := Nat.mod_lt (num * 2 ^ F.scale)
    (Nat.mul_pos hden (Nat.two_pow_pos (F.excessBits (num * 2 ^ F.scale / den))))
  rw [nearestMagnitude]
  generalize F.excessBits (num * 2 ^ F.scale / den) = excess at *
  generalize excess * 2 ^ F.fractionBits + num * 2 ^ F.scale / (den * 2 ^ excess) = below at *
  generalize num * 2 ^ F.scale % (den * 2 ^ excess) = rest at *
  have hsucc : F.units (below + 1) * den = F.units below * den + den * 2 ^ excess := by
    rw [units_succ, hstep, Nat.add_mul, Nat.mul_comm (2 ^ excess)]
  have hprev (h : 0 < below) := hlt (Nat.sub_lt h Nat.one_pos)
  have hnext : F.units (below + 1) * den < F.units (below + 1 + 1) * den := hlt (Nat.lt_succ_self _)
  -- Left of the middle of the step goes down, right of it goes up, and the middle goes to the even end.
  split
  · apply F.rounds_of_scaled hden <;> simp only [Nat.add_mul]
    · intro h
      have := hprev h
      omega
    · omega
    · exact .inr ⟨fun h => by have := hprev h; omega, by omega⟩
  · split
    · apply F.rounds_of_scaled hden <;> simp only [Nat.add_mul, Nat.add_sub_cancel]
      · omega
      · omega
      · exact .inr ⟨fun _ => by omega, by omega⟩
    · rcases Nat.mod_two_eq_zero_or_one below with heven | hodd
      · rw [heven, Nat.add_zero]
        apply F.rounds_of_scaled hden <;> simp only [Nat.add_mul]
        · intro h
          have := hprev h
          omega
        · omega
        · exact .inl heven
      · rw [hodd]
        apply F.rounds_of_scaled hden <;> simp only [Nat.add_mul, Nat.add_sub_cancel]
        · omega
        · omega
        · exact .inl (by omega)

/-- So it is for a decimal. -/
theorem nearestMagnitude_rounds_toRat (d : Decimal) :
    F.Rounds d.toRat (F.nearestMagnitude d.num d.den) := by
  rw [Decimal.toRat_eq_div]
  exact F.nearestMagnitude_rounds d.num d.den_pos

variable {F}

/-- Zero rounds to zero. -/
theorem rounds_zero : F.Rounds 0 0 where
  lower h := absurd h (Nat.lt_irrefl 0)
  upper := by
    rw [mul_zero]
    exact add_nonneg (F.size_nonneg _) (F.size_nonneg _)
  even_of_lower h := absurd h (Nat.lt_irrefl 0)
  even_of_upper _ := rfl

/-- A decimal far below the least positive number rounds to zero. -/
theorem rounds_zero_of_small {d : Decimal}
    (h : d.exponent + (d.digits.log2 + 1 : Nat) ≤ -(F.scale : Int)) : F.Rounds d.toRat 0 := by
  have hnum : d.num = d.digits := by
    rw [Decimal.num, Int.toNat_of_nonpos (by omega), Nat.pow_zero, Nat.mul_one]
  have hdigits : d.digits < 2 ^ (d.digits.log2 + 1) := Nat.lt_log2_self
  have hden : 10 ^ (d.digits.log2 + 1 + F.scale) ≤ d.den :=
    Nat.pow_le_pow_right (by decide) (by omega)
  have htwo : 2 * 2 ^ (d.digits.log2 + 1 + F.scale) ≤ 10 ^ (d.digits.log2 + 1 + F.scale) := by
    have hfive : 2 ≤ 5 ^ (d.digits.log2 + 1 + F.scale) :=
      Nat.le_trans (by decide) (Nat.pow_le_pow_right (by decide : 0 < 5) (show 1 ≤ _ by omega))
    rw [show 10 = 5 * 2 from rfl, Nat.mul_pow]
    exact Nat.mul_le_mul_right _ hfive
  have hscaled : 2 * (d.digits * 2 ^ F.scale) ≤ 2 * 2 ^ (d.digits.log2 + 1 + F.scale) := by
    rw [Nat.pow_add]
    exact Nat.mul_le_mul_left 2 (Nat.mul_le_mul_right _ hdigits.le)
  rw [Decimal.toRat_eq_div]
  refine F.rounds_of_scaled d.den_pos (fun h => absurd h (Nat.lt_irrefl 0)) ?_ (.inl rfl)
  rw [units_zero, units_one, Nat.zero_add, Nat.one_mul, hnum]
  omega

/-- A decimal with an exponent this great is out of range. -/
theorem limit_le_of_large {d : Decimal} (hinfinity : 0 < F.infinity) (hdigits : d.digits ≠ 0)
    (h : (2 ^ F.exponentBits : Nat) ≤ d.exponent) : F.limit ≤ d.toRat := by
  have hexponent : 0 < F.exponentBits := by
    by_contra hzero
    rw [infinity, Nat.eq_zero_of_not_pos hzero] at hinfinity
    simp at hinfinity
  have hstep : F.size (F.infinity - 1) < F.size F.infinity := F.size_strictMono (by omega)
  have hnonneg : 0 ≤ d.exponent := le_trans (Int.natCast_nonneg _) h
  have hden : d.den = 1 := by
    rw [Decimal.den, Int.toNat_of_nonpos (by omega), Nat.pow_zero]
  have hnum : 2 ^ (2 ^ F.exponentBits - 2) ≤ d.num := by
    calc 2 ^ (2 ^ F.exponentBits - 2) ≤ 2 ^ d.exponent.toNat :=
          Nat.pow_le_pow_right (by decide) (by omega)
      _ ≤ 10 ^ d.exponent.toNat := Nat.pow_le_pow_left (by decide) _
      _ ≤ d.num := Nat.le_mul_of_pos_left _ (Nat.pos_of_ne_zero hdigits)
  have hscale : 2 ^ F.fractionBits ≤ 2 ^ F.scale :=
    Nat.pow_le_pow_right (by decide) (Nat.le_add_left _ _)
  have hunits : F.units F.infinity * d.den ≤ d.num * 2 ^ F.scale := by
    rw [F.units_infinity hexponent, hden, Nat.mul_one, Nat.mul_comm]
    exact Nat.mul_le_mul hnum hscale
  have hsize : F.size F.infinity ≤ d.toRat := by
    rw [size, Decimal.toRat_eq_div, div_le_div_iff₀ (Nat.cast_pos.mpr (Nat.two_pow_pos _))
      (Nat.cast_pos.mpr d.den_pos)]
    exact_mod_cast hunits
  unfold limit
  linarith

end Format

namespace Binary

variable {F : Format}

/-- The number chosen for a decimal has the magnitude that the decimal rounds to, if that is finite. -/
theorem nearest?_of_rounds {d : Decimal} {m : Nat} (heven : F.infinity % 2 = 0)
    (hpos : 0 < F.infinity) (negative : Bool) (h : F.Rounds d.toRat m) :
    nearest? F negative d =
      if hm : m < F.infinity then some (finite negative m hm) else none := by
  rw [nearest?]
  split
  · next hsmall =>
    have hzero : F.Rounds d.toRat 0 := by
      rcases hsmall with hdigits | htiny
      · rw [Decimal.toRat, hdigits, Nat.cast_zero, zero_mul]
        exact Format.rounds_zero
      · exact Format.rounds_zero_of_small htiny
    obtain rfl := h.unique hzero
    rw [dif_pos hpos]
    rfl
  · next hsmall =>
    split
    · next hlarge =>
      have hlimit := Format.limit_le_of_large hpos (not_or.mp hsmall).1 hlarge
      rw [dif_neg fun hm => absurd (h.lt_limit hm heven) (not_lt.mpr hlimit)]
    · rw [h.unique (F.nearestMagnitude_rounds_toRat d)]

/-- A decimal in range has a nearest finite number of either sign. -/
theorem exists_nearest?_of_lt {d : Decimal} (heven : F.infinity % 2 = 0) (hpos : 0 < F.infinity)
    (negative : Bool) (h : d.toRat < F.limit) :
    ∃ x, nearest? F negative d = some x ∧ x.negative = negative ∧
      x.IsNearest (signed negative d.toRat) := by
  have hrounds := F.nearestMagnitude_rounds_toRat d
  have hfinite := hrounds.lt_infinity h hpos
  refine ⟨finite negative _ hfinite, ?_, rfl,
    isNearest_of_rounds (decide_eq_true hfinite) d.toRat_nonneg hrounds⟩
  rw [nearest?_of_rounds heven hpos negative hrounds, dif_pos hfinite]

/-- A decimal out of range has none. -/
theorem nearest?_eq_none_of_le {d : Decimal} (heven : F.infinity % 2 = 0) (hpos : 0 < F.infinity)
    (negative : Bool) (h : F.limit ≤ d.toRat) : nearest? F negative d = none := by
  have hrounds := F.nearestMagnitude_rounds_toRat d
  rw [nearest?_of_rounds heven hpos negative hrounds,
    dif_neg fun hm => absurd (hrounds.lt_limit hm heven) (not_lt.mpr h)]

end Binary

end ScopedSelect
