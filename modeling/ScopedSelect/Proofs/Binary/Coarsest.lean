import ScopedSelect.Proofs.Binary.Shortest

/-!
# No coarser grid has a decimal that reads back

The search for the shortest decimal starts on a grid that is too coarse for the number and takes the
first grid with a point in the window. Only the two points around the number are looked at, which is
enough because the window reaches from the number to both sides without a hole. So every decimal that
rounds to a magnitude is on a grid no coarser than that of its shortest decimal.
-/

namespace ScopedSelect

/-- A number is less than the power of ten at the place above it. -/
theorem lt_ten_pow_placeAbove (n : Nat) : n < 10 ^ placeAbove n := by
  have hpower : (2 ^ (n.log2 + 1)) ^ 28 ≤ (10 ^ placeAbove n) ^ 28 := by
    calc (2 ^ (n.log2 + 1)) ^ 28 = 2 ^ ((n.log2 + 1) * 28) := (Nat.pow_mul _ _ _).symm
      _ ≤ 2 ^ (93 * placeAbove n) := by
        refine Nat.pow_le_pow_right (by decide) ?_
        unfold placeAbove
        omega
      _ = (2 ^ 93) ^ placeAbove n := Nat.pow_mul _ _ _
      _ ≤ (10 ^ 28) ^ placeAbove n := Nat.pow_le_pow_left (by decide) _
      _ = (10 ^ placeAbove n) ^ 28 := Nat.pow_right_comm _ _ _
  exact Nat.lt_of_lt_of_le Nat.lt_log2_self ((Nat.pow_le_pow_iff_left (by decide)).mp hpower)

namespace Window

variable {w : Window} {tie : Tie} {exact : Nat}

/-- A grid is passed over only if neither of the two points around the number is in the window. -/
theorem nearestMultiple_ne_none {step : Nat}
    (h : w.contains (exact / step * step) ∨ w.contains ((exact / step + 1) * step)) :
    w.nearestMultiple tie exact step ≠ none := by
  intro hnone
  rw [nearestMultiple.eq_def] at hnone
  cases hbelow : w.contains (exact / step * step) <;>
    cases habove : w.contains ((exact / step + 1) * step) <;>
      simp only [hbelow, habove] at hnone
  · simp [hbelow, habove] at h
  · cases hnone
  · cases hnone
  · cases hcompare : compare (2 * exact) ((2 * (exact / step) + 1) * step) <;> cases tie <;>
      simp [hcompare] at hnone

/-- The search ends no lower than any grid that is not passed over. -/
theorem le_coarsest_exponent {place j : Nat} (hj : j ≤ place)
    (h : 0 < j → w.nearestMultiple tie exact (10 ^ j) ≠ none) :
    (j : Int) ≤ (w.coarsest tie exact place).exponent := by
  induction place with
  | zero => simpa [coarsest] using hj
  | succ place ih =>
    rw [coarsest]
    split
    · exact Int.ofNat_le.mpr hj
    · next hnone =>
      refine ih (Nat.le_of_lt_succ (Nat.lt_of_le_of_ne hj fun heq => ?_))
      subst heq
      exact h (Nat.succ_pos place) hnone

end Window

namespace Format

variable {F : Format} {tie : Tie} {m : Nat}

/-- The size of a magnitude in multiples of the power of ten that windows are scaled by. -/
theorem size_eq_exactDigits (m : Nat) : F.size m = F.exactDigits m / (10 ^ F.scale : Nat) := by
  have hfive : (5 ^ F.scale : ℚ) ≠ 0 := pow_ne_zero _ (by norm_num)
  rw [size, exactDigits, show 10 = 2 * 5 from rfl, Nat.mul_pow]
  push_cast
  exact (mul_div_mul_right _ _ hfive).symm

/-- What rounds to a positive magnitude is in its window. -/
theorem window_contains_of_rounds {n : Nat} (hm : 0 < m)
    (h : F.Rounds ((n : ℚ) / (10 ^ F.scale : Nat)) m) : (F.window m).contains n := by
  have hscale : (0 : ℚ) < (10 ^ F.scale : Nat) := Nat.cast_pos.mpr (Nat.pow_pos (by decide))
  -- The bounds of the interval are the ends of the window.
  have hdouble : 2 * ((n : ℚ) / (10 ^ F.scale : Nat)) = (2 * n : Nat) / (10 ^ F.scale : Nat) := by
    push_cast
    ring
  have hsum (a b : Nat) :
      F.size a + F.size b = (F.exactDigits a + F.exactDigits b : Nat) / (10 ^ F.scale : Nat) := by
    rw [size_eq_exactDigits, size_eq_exactDigits, ← add_div, Nat.cast_add]
  have hlower := h.lower hm
  have hupper := h.upper
  have hevenLower := h.even_of_lower hm
  have hevenUpper := h.even_of_upper
  rw [hdouble, hsum, div_le_div_iff_of_pos_right hscale, Nat.cast_le] at hlower hupper
  rw [hdouble, hsum, div_left_inj' hscale.ne', Nat.cast_inj] at hevenLower hevenUpper
  rw [Window.contains_iff]
  change (F.exactDigits (m - 1) + F.exactDigits m < 2 * n ∧
      2 * n < F.exactDigits m + F.exactDigits (m + 1)) ∨
    ((m % 2 == 0) = true ∧ (2 * n = F.exactDigits (m - 1) + F.exactDigits m ∨
      2 * n = F.exactDigits m + F.exactDigits (m + 1)))
  rw [beq_iff_eq]
  omega

/-- If any point of a grid rounds to a magnitude, then the search does not pass over the grid. -/
theorem nearestMultiple_ne_none_of_rounds (hm : 0 < m) {c j : Nat}
    (h : F.Rounds ((c * 10 ^ j : Nat) / (10 ^ F.scale : Nat) : ℚ) m) :
    (F.window m).nearestMultiple tie (F.exactDigits m) (10 ^ j) ≠ none := by
  have hstep : 0 < 10 ^ j := Nat.pow_pos (by decide)
  have hself : F.Rounds (F.exactDigits m / (10 ^ F.scale : Nat) : ℚ) m :=
    rounds_of_window_contains (window_contains_exact hm)
  have hcast {a b : Nat} (hab : a ≤ b) :
      (a : ℚ) / (10 ^ F.scale : Nat) ≤ b / (10 ^ F.scale : Nat) :=
    div_le_div_of_nonneg_right (Nat.cast_le.mpr hab) (Nat.cast_nonneg _)
  have hbelow : F.exactDigits m / 10 ^ j * 10 ^ j ≤ F.exactDigits m := Nat.div_mul_le_self _ _
  have habove : F.exactDigits m ≤ (F.exactDigits m / 10 ^ j + 1) * 10 ^ j :=
    (Nat.lt_mul_of_div_lt (Nat.lt_succ_self _) hstep).le
  apply Window.nearestMultiple_ne_none
  rcases Nat.lt_or_ge (F.exactDigits m / 10 ^ j) c with hlt | hle
  · have hle' : (F.exactDigits m / 10 ^ j + 1) * 10 ^ j ≤ c * 10 ^ j := Nat.mul_le_mul_right _ hlt
    exact .inr (window_contains_of_rounds hm (hself.between h (hcast habove) (hcast hle')))
  · have hle' : c * 10 ^ j ≤ F.exactDigits m / 10 ^ j * 10 ^ j := Nat.mul_le_mul_right _ hle
    exact .inl (window_contains_of_rounds hm (h.between hself (hcast hle') (hcast hbelow)))

/-- What rounds to a positive magnitude is at most half as much again as its size. -/
theorem Rounds.two_mul_le {v : ℚ} (h : F.Rounds v m) (hm : 0 < m) : 2 * v ≤ 3 * F.size m := by
  have hupper := h.upper
  have hgap := F.gap_le_size hm
  rw [size_succ] at hupper
  linarith

/-- The search starts no lower than any grid with a positive point that rounds to the magnitude. -/
theorem le_placeAbove_of_rounds (hm : 0 < m) {c j : Nat} (hc : 0 < c)
    (h : F.Rounds ((c * 10 ^ j : Nat) / (10 ^ F.scale : Nat) : ℚ) m) :
    j ≤ placeAbove (F.exactDigits m) := by
  have hscale : (0 : ℚ) < (10 ^ F.scale : Nat) := Nat.cast_pos.mpr (Nat.pow_pos (by decide))
  have htwice := h.two_mul_le hm
  rw [size_eq_exactDigits, mul_div_assoc', mul_div_assoc', div_le_div_iff_of_pos_right hscale] at htwice
  have hnat : 2 * (c * 10 ^ j) ≤ 3 * F.exactDigits m := by exact_mod_cast htwice
  have hpoint : 10 ^ j ≤ c * 10 ^ j := Nat.le_mul_of_pos_left _ hc
  have hplace := lt_ten_pow_placeAbove (F.exactDigits m)
  have hlt : 10 ^ j < 10 ^ (placeAbove (F.exactDigits m) + 1) := by
    rw [Nat.pow_succ]
    omega
  exact Nat.le_of_lt_succ ((Nat.pow_lt_pow_iff_right (by decide)).mp hlt)

/-- A shortest decimal is on the grid that windows are scaled by. -/
theorem neg_scale_le_shortest_exponent (hm : 0 < m) :
    -(F.scale : Int) ≤ (F.shortest tie m).exponent := by
  obtain ⟨place, hplace, -⟩ := Window.coarsest_contains tie (window_contains_exact (F := F) hm)
    (placeAbove (F.exactDigits m))
  rw [shortest, if_neg hm.ne']
  simp only [hplace]
  omega

/-- Every decimal that rounds to a positive magnitude is on a grid no coarser than that of the
shortest one. -/
theorem exponent_le_shortest_exponent (tie : Tie) (hm : 0 < m) {d : Decimal}
    (h : F.Rounds d.toRat m) : d.exponent ≤ (F.shortest tie m).exponent := by
  rcases Int.lt_or_le (-F.scale) d.exponent with hcoarse | hfine
  · obtain ⟨j, hj⟩ := Int.eq_ofNat_of_zero_le (show 0 ≤ d.exponent + F.scale by omega)
    obtain ⟨digits, exponent⟩ := d
    obtain rfl : exponent = j - F.scale := by
      change exponent + F.scale = j at hj
      omega
    have hdigits : 0 < digits := by
      apply Nat.pos_of_ne_zero
      rintro rfl
      rw [Decimal.toRat, Nat.cast_zero, zero_mul] at h
      exact hm.ne' (h.unique rounds_zero)
    rw [Decimal.toRat_sub] at h
    have hfound : (F.window m).nearestMultiple tie (F.exactDigits m) (10 ^ j) ≠ none :=
      nearestMultiple_ne_none_of_rounds hm h
    have hexponent :=
      Window.le_coarsest_exponent (le_placeAbove_of_rounds hm hdigits h) fun _ => hfound
    rw [shortest, if_neg hm.ne']
    exact Int.sub_le_sub_right hexponent _
  · exact hfine.trans (neg_scale_le_shortest_exponent hm)

end Format

end ScopedSelect
