import ScopedSelect.Binary.Shortest
import ScopedSelect.Proofs.Binary.Nearest

/-!
# Shortest decimals read back

The window of a magnitude holds just the decimals that round to it, and whichever grid the search
ends on, the multiple that it returns is in the window. So the shortest decimal of a magnitude rounds
to that magnitude. That no shorter decimal does follows from the choice of the grid, and not from here.
-/

namespace ScopedSelect

namespace Window

variable {w : Window}

/-- A natural number is in a window if it is strictly between the ends, or at an end that counts. -/
theorem contains_iff {n : Nat} :
    w.contains n ↔ (w.lower < 2 * n ∧ 2 * n < w.upper) ∨
      (w.closed ∧ (2 * n = w.lower ∨ 2 * n = w.upper)) := by
  simp [contains]

/-- The chosen multiple is one of the two around the number, and it is in the window. -/
theorem contains_of_nearestMultiple {tie : Tie} {exact step digits : Nat}
    (h : w.nearestMultiple tie exact step = some digits) : w.contains (digits * step) := by
  rw [nearestMultiple.eq_def] at h
  cases hbelow : w.contains (exact / step * step) <;>
    cases habove : w.contains ((exact / step + 1) * step) <;>
      simp only [hbelow, habove] at h
  · cases h
  · obtain rfl := Option.some.inj h
    exact habove
  · obtain rfl := Option.some.inj h
    exact hbelow
  · -- Both are, and the comparison and the tie rule settle on one of them.
    have hchoice : digits = exact / step ∨ digits = exact / step + 1 := by
      cases hcompare : compare (2 * exact) ((2 * (exact / step) + 1) * step) <;> cases tie <;>
        simp only [hcompare, Option.some.injEq] at h <;> omega
    rcases hchoice with rfl | rfl
    · exact hbelow
    · exact habove

/-- Whatever grid the search ends on, it returns a multiple in the window. -/
theorem coarsest_contains (tie : Tie) {exact : Nat} (h : w.contains exact) (place : Nat) :
    ∃ found : Nat, (w.coarsest tie exact place).exponent = found ∧
      w.contains ((w.coarsest tie exact place).digits * 10 ^ found) := by
  induction place with
  | zero => exact ⟨0, rfl, by rw [coarsest, Nat.pow_zero, Nat.mul_one]; exact h⟩
  | succ place ih =>
    rw [coarsest]
    split
    · next digits hfound => exact ⟨place + 1, rfl, contains_of_nearestMultiple hfound⟩
    · exact ih

end Window

namespace Format

variable {F : Format} {m : Nat}

/-- The exact decimals of magnitudes are ordered as the magnitudes are. -/
theorem exactDigits_strictMono : StrictMono F.exactDigits := by
  intro m k h
  exact Nat.mul_lt_mul_of_pos_right (F.units_strictMono h) (Nat.pow_pos (by decide))

/-- A number is in its own window. -/
theorem window_contains_exact (hm : 0 < m) : (F.window m).contains (F.exactDigits m) := by
  have hbelow : F.exactDigits (m - 1) < F.exactDigits m := exactDigits_strictMono (by omega)
  have habove : F.exactDigits m < F.exactDigits (m + 1) := exactDigits_strictMono (by omega)
  refine Window.contains_iff.mpr (.inl ⟨?_, ?_⟩)
  · change F.exactDigits (m - 1) + F.exactDigits m < 2 * F.exactDigits m
    omega
  · change 2 * F.exactDigits m < F.exactDigits m + F.exactDigits (m + 1)
    omega

/-- What is in the window of a magnitude rounds to it. -/
theorem rounds_of_window_contains {n : Nat} (h : (F.window m).contains n) :
    F.Rounds ((n : ℚ) / (10 ^ F.scale : Nat)) m := by
  have htwo : 0 < 2 ^ F.scale := Nat.two_pow_pos _
  -- Both sides of each bound have the factor `2 ^ F.scale` beyond the scale of the window.
  have hscale (a b : Nat) : (F.units a + F.units b) * 10 ^ F.scale =
      (F.exactDigits a + F.exactDigits b) * 2 ^ F.scale := by
    rw [show 10 = 5 * 2 from rfl, Nat.mul_pow, exactDigits, exactDigits, ← Nat.add_mul,
      Nat.mul_assoc]
  have hdouble : 2 * (n * 2 ^ F.scale) = 2 * n * 2 ^ F.scale := (Nat.mul_assoc _ _ _).symm
  have hends : (F.window m).lower ≤ 2 * n ∧ 2 * n ≤ (F.window m).upper := by
    have hwide : (F.window m).lower ≤ (F.window m).upper := by
      have houter : F.exactDigits (m - 1) ≤ F.exactDigits (m + 1) :=
        exactDigits_strictMono.monotone (by omega)
      change F.exactDigits (m - 1) + F.exactDigits m ≤ F.exactDigits m + F.exactDigits (m + 1)
      omega
    rcases Window.contains_iff.mp h with ⟨hlower, hupper⟩ | ⟨-, hlower | hupper⟩ <;> omega
  refine F.rounds_of_scaled (Nat.pow_pos (by decide)) (fun _ => ?_) ?_ ?_
  · rw [hscale, hdouble]
    exact Nat.mul_le_mul_right _ hends.1
  · rw [hscale, hdouble]
    exact Nat.mul_le_mul_right _ hends.2
  · rcases Window.contains_iff.mp h with ⟨hlower, hupper⟩ | ⟨hclosed, -⟩
    · refine .inr ⟨fun _ => ?_, ?_⟩ <;> rw [hscale, hdouble]
      · exact Nat.mul_lt_mul_of_pos_right hlower htwo
      · exact Nat.mul_lt_mul_of_pos_right hupper htwo
    · exact .inl (beq_iff_eq.mp hclosed)

/-- The shortest decimal of a magnitude rounds to that magnitude. -/
theorem shortest_rounds (F : Format) (tie : Tie) (m : Nat) : F.Rounds (F.shortest tie m).toRat m := by
  by_cases hm : m = 0
  · subst hm
    rw [shortest, if_pos rfl, Decimal.toRat, Nat.cast_zero, zero_mul]
    exact rounds_zero
  · obtain ⟨place, hplace, hcontains⟩ := Window.coarsest_contains tie
      (window_contains_exact (F := F) (Nat.pos_of_ne_zero hm)) (placeAbove (F.exactDigits m))
    rw [shortest, if_neg hm, Decimal.toRat]
    have hvalue := rounds_of_window_contains hcontains
    simp only [hplace]
    rwa [zpow_sub₀ (by norm_num), zpow_natCast, zpow_natCast, ← mul_div_assoc, ← Nat.cast_ofNat,
      ← Nat.cast_pow, ← Nat.cast_pow, ← Nat.cast_mul]

/-- Only zero is written without any digit but zero. -/
theorem shortest_digits_eq_zero_iff {tie : Tie} : (F.shortest tie m).digits = 0 ↔ m = 0 := by
  constructor
  · intro h
    have hrounds := F.shortest_rounds tie m
    rw [Decimal.toRat, h, Nat.cast_zero, zero_mul] at hrounds
    exact hrounds.unique rounds_zero
  · rintro rfl
    rw [shortest, if_pos rfl]

end Format

end ScopedSelect
